import CrateGen.Proofs.Code.Blocks

namespace CrateGen

open CrateGen.Action

/-- What dependencies hold when they are put together is what one of them holds. -/
structure Dependencies.Content (K : Dependencies → Prop) : Prop where
  empty : ¬K {}
  merge : ∀ {ds new}, K (ds.merge new) ↔ K ds ∨ K new

theorem Writer.Blank.not_content {K : Dependencies → Prop} (hK : Dependencies.Content K)
    {w : Writer} (h : w.Blank) : ¬K w.dependencies := by
  rw [h.dependencies]
  exact hK.empty

namespace Writer

variable (w : Writer)

theorem mark_dependencies : w.mark.dependencies = w.dependencies := by
  unfold mark
  split <;> rfl

theorem openBlock_dependencies (header : String) :
    (w.openBlock header).dependencies = w.dependencies := by
  unfold openBlock
  split <;> rfl

theorem closeBlock_dependencies (footer : String) :
    (w.closeBlock footer).dependencies = w.dependencies := by
  unfold closeBlock
  dsimp only
  split <;> rfl

theorem comment_dependencies (style : CommentStyle) (text : String) :
    (w.comment style text).dependencies = w.dependencies := by
  have hlines (ls : List String) (w : Writer) :
      (ls.foldl (comment.commentLine style) w).dependencies = w.dependencies := by
    induction ls generalizing w with
    | nil => rfl
    | cons l ls ih =>
      have hline (text : String) : (w.emitLine text).dependencies = w.dependencies := rfl
      rw [List.foldl_cons, ih]
      exact hline _
  unfold comment
  exact hlines (Text.lines (Text.dedent text)) w.ensureNewline

theorem headed_dependencies (m : Module) : (w.headed m).dependencies = w.dependencies := by
  unfold headed
  split
  · exact comment_dependencies w.ensureNewline _ _
  · rfl

theorem withBlock_dependencies (m : Module) (contents : String) :
    (w.withBlock m contents).dependencies = w.dependencies := by
  unfold withBlock
  rw [closeBlock_dependencies]
  split
  · rw [openBlock_dependencies, headed_dependencies]
  · exact (openBlock_dependencies _ _).trans (headed_dependencies w m)

theorem embed_dependencies (m : Module) (inner : Writer) :
    (w.embed m inner).dependencies = w.dependencies.merge inner.dependencies := by
  rw [embed_eq, withBlock_dependencies]

end Writer

namespace Crate

variable {K : Dependencies → Prop} {c c' : Crate} {m : Module} {code : Code} {fuel : Nat}

/-- The dependencies of some file hold it. -/
def FilesHold (K : Dependencies → Prop) (c : Crate) : Prop :=
  ∃ (path : String) (w : Writer), c.files[path]? = some w ∧ K w.dependencies

def Inlines.Hold (K : Dependencies → Prop) (ms : Inlines) : Prop :=
  ∃ (path : String) (m : Module) (w : Writer), ms[path]? = some (m, w) ∧ K w.dependencies

/-- The dependencies of some writer hold it. -/
def Holds (K : Dependencies → Prop) (c : Crate) : Prop :=
  ∃ w ∈ c.writers, K w.dependencies

theorem holds_iff : c.Holds K ↔ c.FilesHold K ∨ Inlines.Hold K c.inlineModules := by
  constructor
  · rintro ⟨w, hw, hk⟩
    rcases mem_writers.mp hw with ⟨path, hfile⟩ | ⟨path, m, hinline⟩
    · exact .inl ⟨path, w, hfile, hk⟩
    · exact .inr ⟨path, m, w, hinline, hk⟩
  · rintro (⟨path, w, hfile, hk⟩ | ⟨path, m, w, hinline, hk⟩)
    · exact ⟨w, mem_writers.mpr (.inl ⟨path, hfile⟩), hk⟩
    · exact ⟨w, mem_writers.mpr (.inr ⟨path, m, hinline⟩), hk⟩

theorem Opens.filesHold (hK : Dependencies.Content K) (h : Opens c c') :
    c'.FilesHold K ↔ c.FilesHold K := by
  constructor
  · rintro ⟨path, w', hw', hk⟩
    cases hw : c.files[path]? with
    | none => exact absurd hk ((h.opened hw hw').not_content hK)
    | some w =>
      obtain ⟨modules, hkept⟩ := h.kept hw
      rw [hw'] at hkept
      cases hkept
      exact ⟨path, w, hw, hk⟩
  · rintro ⟨path, w, hw, hk⟩
    obtain ⟨modules, hkept⟩ := h.kept hw
    exact ⟨path, _, hkept, hk⟩

/-! ## Writing -/

theorem write_own (h : outcome (write fuel m code) c = (.ok (), c')) :
    ∃ w, outcome (code.run fuel) (c.target m) = (.ok (), w) ∧ c'.writerOf? m = some w := by
  unfold writerOf?
  cases hm : m.isInline with
  | false =>
    obtain ⟨w, hrun, rfl⟩ := write_file_ok hm h
    exact ⟨w, hrun, Std.ExtTreeMap.getElem?_insert_self⟩
  | true =>
    obtain ⟨w, hrun, rfl⟩ := write_inline_ok hm h
    refine ⟨w, hrun, ?_⟩
    rw [if_pos rfl, Std.ExtTreeMap.getElem?_insert_self]
    rfl

theorem holds_of_target (hK : Dependencies.Content K) (h : K (c.target m).dependencies) :
    c.Holds K := by
  cases hm : m.isInline with
  | true =>
    rw [target_inline c hm] at h
    rcases c.inlineEntry_cases m with ⟨-, hnew⟩ | hknown
    · rw [hnew] at h
      exact absurd h ((c.newInline_blank m).not_content hK)
    · exact holds_iff.mpr (.inr ⟨_, _, _, hknown, h⟩)
  | false =>
    have hfiles := (Opens.openFile c m).filesHold hK
    exact holds_iff.mpr (.inl (hfiles.mp ⟨_, _, c.openFile_target hm, h⟩))

theorem write_holds (hK : Dependencies.Content K)
    (h : outcome (write fuel m code) c = (.ok (), c')) {w : Writer}
    (hw : c'.writerOf? m = some w)
    (hgrows : K (c.target m).dependencies → K w.dependencies) :
    c'.Holds K ↔ c.Holds K ∨ K w.dependencies := by
  have hwrites := write_ok h
  have hfile {path : String} (hown : ¬(m.isInline = false ∧ path = m.filePath)) :
      m.isInline = true ∨ path ≠ m.filePath := by
    rw [← Bool.not_eq_false]
    exact Decidable.not_and_iff_not_or_not.mp hown
  have hinline {path : String} (hown : ¬(m.isInline = true ∧ path = m.fullPath)) :
      m.isInline = false ∨ path ≠ m.fullPath := by
    rw [← Bool.not_eq_true]
    exact Decidable.not_and_iff_not_or_not.mp hown
  constructor
  · rintro ⟨v, hv, hk⟩
    rcases mem_writers.mp hv with ⟨path, hpath⟩ | ⟨path, m', hpath⟩
    · by_cases hown : m.isInline = false ∧ path = m.filePath
      · obtain ⟨hm, rfl⟩ := hown
        rw [writerOf?, hm, if_neg Bool.false_ne_true, hpath] at hw
        cases hw
        exact .inr hk
      · cases hold : c.files[path]? with
        | none => exact absurd hk ((hwrites.opened (hfile hown) hold hpath).not_content hK)
        | some v₀ =>
          obtain ⟨modules, hkept⟩ := hwrites.kept (hfile hown) hold
          rw [hpath] at hkept
          cases hkept
          exact .inl (holds_iff.mpr (.inl ⟨path, v₀, hold, hk⟩))
    · by_cases hown : m.isInline = true ∧ path = m.fullPath
      · obtain ⟨hm, rfl⟩ := hown
        rw [writerOf?, hm, if_pos rfl, hpath] at hw
        cases hw
        exact .inr hk
      · rw [hwrites.inlineModules (hinline hown)] at hpath
        exact .inl (holds_iff.mpr (.inr ⟨path, m', v, hpath, hk⟩))
  · have hmine {v : Writer} (hv : c.writerOf? m = some v) (hk : K v.dependencies) :
        c'.Holds K := by
      rw [← target_eq hv] at hk
      exact ⟨w, mem_writers_of_writerOf? hw, hgrows hk⟩
    rintro (⟨v, hv, hk⟩ | hk)
    · rcases mem_writers.mp hv with ⟨path, hpath⟩ | ⟨path, m', hpath⟩
      · by_cases hown : m.isInline = false ∧ path = m.filePath
        · obtain ⟨hm, rfl⟩ := hown
          refine hmine ?_ hk
          rw [writerOf?, hm, if_neg Bool.false_ne_true, hpath]
        · obtain ⟨modules, hkept⟩ := hwrites.kept (hfile hown) hpath
          exact holds_iff.mpr (.inl ⟨path, _, hkept, hk⟩)
      · by_cases hown : m.isInline = true ∧ path = m.fullPath
        · obtain ⟨hm, rfl⟩ := hown
          refine hmine ?_ hk
          rw [writerOf?, hm, if_pos rfl, hpath]
          rfl
        · rw [← hwrites.inlineModules (hinline hown)] at hpath
          exact holds_iff.mpr (.inr ⟨path, m', v, hpath, hk⟩)
    · exact ⟨w, mem_writers_of_writerOf? hw, hk⟩

/-! ## Embedding -/

namespace Inlines

variable {ms : Inlines} {path : String} {w : Writer}

theorem hold_erase (h : ms[path]? = some (m, w)) :
    Hold K ms ↔ Hold K (ms.erase path) ∨ K w.dependencies := by
  constructor
  · rintro ⟨path', m', w', hw', hk⟩
    by_cases heq : path' = path
    · subst heq
      rw [h] at hw'
      cases hw'
      exact .inr hk
    · exact .inl ⟨path', m', w', (SortedMap.getElem?_erase_ne ms heq).trans hw', hk⟩
  · rintro (⟨path', m', w', hw', hk⟩ | hk)
    · exact ⟨path', m', w', SortedMap.of_getElem?_erase hw', hk⟩
    · exact ⟨path, m, w, h, hk⟩

theorem hold_insert (m : Module) {new w' : Writer}
    (hgrows : K (ms.entry m new).2.dependencies → K w'.dependencies) :
    Hold K (ms.insert m.fullPath ((ms.entry m new).1, w')) ↔ Hold K ms ∨ K w'.dependencies := by
  constructor
  · rintro ⟨path, m', v, hv, hk⟩
    rcases SortedMap.getElem?_insert_eq_some.mp hv with ⟨-, hnew⟩ | ⟨-, hold⟩
    · cases hnew
      exact .inr hk
    · exact .inl ⟨path, m', v, hold, hk⟩
  · have hself := Std.ExtTreeMap.getElem?_insert_self (t := ms) (k := m.fullPath)
      (v := ((ms.entry m new).1, w'))
    rintro (⟨path, m', v, hv, hk⟩ | hk)
    · by_cases heq : path = m.fullPath
      · subst heq
        refine ⟨_, _, _, hself, hgrows ?_⟩
        rw [entry, hv]
        exact hk
      · exact ⟨path, m', v, (SortedMap.getElem?_insert_ne _ _ heq).trans hv, hk⟩
    · exact ⟨_, _, _, hself, hk⟩

end Inlines

theorem getElem?_embedFile (c : Crate) (m : Module) (w : Writer) :
    ∃ v, (c.openFile m.fileOwner).files[m.fileOwner.filePath]? = some v ∧ ∀ path,
      (c.intoFile m w).files[path]? =
        if path = m.fileOwner.filePath then some (v.embed m w)
        else (c.openFile m.fileOwner).files[path]? := by
  obtain ⟨v, hv⟩ := c.exists_openFile m.fileOwner
  refine ⟨v, hv, fun path => ?_⟩
  rw [intoFile, getElem?_modifyFile]
  split
  · next hpath =>
    rw [hpath, hv]
    rfl
  · rfl

theorem filesHold_embed (hK : Dependencies.Content K) (c : Crate) (m : Module) (w : Writer) :
    FilesHold K (c.intoFile m w) ↔ c.FilesHold K ∨ K w.dependencies := by
  have hopen := (Opens.openFile c m.fileOwner).filesHold hK
  obtain ⟨v, hv, hget⟩ := c.getElem?_embedFile m w
  rw [← hopen]
  constructor
  · rintro ⟨path, v', hv', hk⟩
    rw [hget] at hv'
    split at hv'
    · cases hv'
      rw [Writer.embed_dependencies, hK.merge] at hk
      exact hk.imp_left fun hk => ⟨_, v, hv, hk⟩
    · exact .inl ⟨path, v', hv', hk⟩
  · have hself := (hget m.fileOwner.filePath).trans (if_pos rfl)
    have hmerge : K (v.embed m w).dependencies ↔ K v.dependencies ∨ K w.dependencies := by
      rw [Writer.embed_dependencies, hK.merge]
    rintro (⟨path, v', hv', hk⟩ | hk)
    · by_cases heq : path = m.fileOwner.filePath
      · subst heq
        rw [hv] at hv'
        cases hv'
        exact ⟨_, _, hself, hmerge.mpr (.inl hk)⟩
      · exact ⟨path, v', (hget path).trans ((if_neg heq).trans hv'), hk⟩
    · exact ⟨_, _, hself, hmerge.mpr (.inr hk)⟩

section

open Inlines

variable {ms : Inlines} {path : String} {w : Writer} {steps : Nat}

/-- What is kept whenever a module becomes a block of its parent or of a file. -/
structure KeptByEmbedding (P : Inlines → Crate → Prop) : Prop where
  parent : ∀ {ms : Inlines} {c : Crate} {path : String} {m parent : Module} {w : Writer},
    ms[path]? = some (m, w) → P ms c → P (c.intoParent ms path m parent w) c
  file : ∀ {ms : Inlines} {c : Crate} {path : String} {m : Module} {w : Writer},
    ms[path]? = some (m, w) → P ms c → P (ms.erase path) (c.intoFile m w)

theorem embedModules_preserves {P : Inlines → Crate → Prop} (hkept : KeptByEmbedding P)
    (hweight : ms.weight ≤ steps) (h : outcome (embedModules steps ms) c = (.ok (), c'))
    (hP : P ms c) : P ∅ c' := by
  induction steps generalizing ms c with
  | zero =>
    rw [embedModules.eq_def] at h
    cases h
    rw [Std.ExtTreeMap.toList_eq_nil_iff.mp (eq_empty_of_weight (Nat.le_zero.mp hweight))] at hP
    exact hP
  | succ steps ih =>
    cases hd : deepest? ms.toList with
    | none =>
      rw [embedModules_none hd] at h
      cases h
      rw [eq_empty_of_deepest? hd] at hP
      exact hP
    | some entry =>
      obtain ⟨path, m, w⟩ := entry
      have hm : ms[path]? = some (m, w) :=
        Std.ExtTreeMap.mem_toList_iff_getElem?_eq_some.mp (deepest?_mem hd)
      have herase := weight_erase hm
      rcases embedModules_ok_cases hd h with ⟨parent, hp, hin, hrest⟩ | hrest
      · refine ih ?_ hrest (hkept.parent hm hP)
        have hentry := weight_insert_entry (ms.erase path) parent (c.newInline parent)
          ((Inlines.entry (ms.erase path) parent (c.newInline parent)).2.embed m w)
        rw [Module.ancestors_of_parent hp, List.length_cons] at herase
        rw [intoParent]
        omega
      · exact ih (by omega) hrest (hkept.file hm hP)

theorem embedAll_preserves {P : Inlines → Crate → Prop} (hkept : KeptByEmbedding P)
    (h : outcome embedAll c = (.ok (), c'))
    (hP : P c.inlineModules { c with inlineModules := ∅ }) : P ∅ c' := by
  unfold embedAll at h
  rw [outcome_bind_ok (outcome_get c), outcome_bind_ok (outcome_modify _ _)] at h
  exact embedModules_preserves hkept (Nat.le_refl _) h hP

/-- Embedding loses nothing that a writer refers to, and adds nothing. -/
theorem embedAll_holds (hK : Dependencies.Content K) (h : outcome embedAll c = (.ok (), c')) :
    c'.Holds K ↔ c.Holds K := by
  have hfiles : c'.inlineModules = ∅ := by
    obtain ⟨files, rfl⟩ := embedAll_files h
    rfl
  have hpreserved := embedAll_preserves (P := fun ms c₁ =>
    c₁.FilesHold K ∨ Hold K ms ↔ c.Holds K) ⟨?_, ?_⟩ h (holds_iff (c := c)).symm
  · rw [holds_iff, hfiles]
    exact hpreserved
  · intro ms c₁ path m parent w hm hP
    have hentry : K (entry (ms.erase path) parent (c₁.newInline parent)).2.dependencies →
        Hold K (ms.erase path) := by
      unfold Inlines.entry
      cases hknown : (ms.erase path)[parent.fullPath]? with
      | none => exact fun hk => absurd hk ((c₁.newInline_blank parent).not_content hK)
      | some entry => exact fun hk => ⟨_, entry.1, entry.2, hknown, hk⟩
    have hembed := Writer.embed_dependencies
      (entry (ms.erase path) parent (c₁.newInline parent)).2 m w
    rw [intoParent, hold_insert parent, hembed, hK.merge, ← hP, hold_erase hm]
    · tauto
    · rw [hembed, hK.merge]
      exact .inl
  · intro ms c₁ path m w hm hP
    rw [filesHold_embed hK, ← hP, hold_erase hm]
    tauto

end

end Crate

end CrateGen
