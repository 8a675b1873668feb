import CrateGen.Proofs.Code.Files

namespace CrateGen

open CrateGen.Action

namespace Module

theorem Rooted.parent {m parent : Module} (h : m.Rooted) (hp : m.parent? = some parent) :
    parent.Rooted := by
  cases m with
  | top info => cases hp
  | child above info =>
    cases hp
    exact h

theorem ancestors_of_parent {m parent : Module} (hp : m.parent? = some parent) :
    m.ancestors = parent :: parent.ancestors := by
  cases m with
  | top info => cases hp
  | child above info =>
    cases hp
    rfl

end Module

namespace Crate

abbrev Inlines := Std.ExtTreeMap String (Module × Writer)

namespace Inlines

variable {ms : Inlines} {path : String} {m : Module} {w : Writer}

def Rooted (ms : Inlines) : Prop :=
  ∀ (path : String) (m : Module) (w : Writer), ms[path]? = some (m, w) → m.Rooted

theorem Rooted.erase (h : Rooted ms) (path : String) : Rooted (ms.erase path) :=
  fun path' m w hw => h path' m w (SortedMap.of_getElem?_erase hw)

theorem Rooted.insert (h : Rooted ms) (path : String) (hm : m.Rooted) (w : Writer) :
    Rooted (ms.insert path (m, w)) := by
  intro path' m' w' hw
  rcases SortedMap.getElem?_insert_eq_some.mp hw with ⟨-, hnew⟩ | ⟨-, hold⟩
  · cases hnew
    exact hm
  · exact h path' m' w' hold

/-- The number of the modules and their ancestors. -/
def weight (ms : Inlines) : Nat :=
  (ms.values.flatMap fun entry => entry.1 :: entry.1.ancestors).length

theorem weight_of_perm {entries : List (String × Module × Writer)}
    (h : ms.toList.Perm ((path, m, w) :: entries)) :
    weight ms = m.ancestors.length + 1 +
      ((entries.map Prod.snd).flatMap fun entry => entry.1 :: entry.1.ancestors).length := by
  unfold weight
  rw [SortedMap.values_eq, ((h.map Prod.snd).flatMap_right _).length_eq, List.map_cons,
    List.flatMap_cons, List.length_append, List.length_cons]

theorem weight_erase (h : ms[path]? = some (m, w)) :
    weight ms = m.ancestors.length + 1 + weight (ms.erase path) := by
  rw [weight_of_perm (SortedMap.toList_perm_erase h), ← SortedMap.values_eq]
  rfl

theorem weight_insert_new (h : ms[path]? = none) (m : Module) (w : Writer) :
    weight (ms.insert path (m, w)) = m.ancestors.length + 1 + weight ms := by
  rw [weight_of_perm (SortedMap.toList_insert_perm h (m, w)), ← SortedMap.values_eq]
  rfl

theorem weight_insert_known {w : Writer} (h : ms[path]? = some (m, w)) (w' : Writer) :
    weight (ms.insert path (m, w')) = weight ms := by
  have herase : (ms.insert path (m, w')).erase path = ms.erase path := by
    apply Std.ExtTreeMap.ext_getElem?
    intro path'
    rw [Std.ExtTreeMap.getElem?_erase, Std.ExtTreeMap.getElem?_erase,
      Std.ExtTreeMap.getElem?_insert]
    split <;> rfl
  rw [weight_erase Std.ExtTreeMap.getElem?_insert_self, weight_erase h, herase]

/-- A module and its writer, which is the given one if there is none yet. -/
def entry (ms : Inlines) (m : Module) (w : Writer) : Module × Writer :=
  ms[m.fullPath]?.getD (m, w)

theorem Rooted.entry (h : Rooted ms) (hm : m.Rooted) (w : Writer) :
    (ms.entry m w).1.Rooted := by
  unfold Inlines.entry
  cases hknown : ms[m.fullPath]? with
  | none => exact hm
  | some entry => exact h _ _ _ hknown

theorem weight_insert_entry (ms : Inlines) (m : Module) (w w' : Writer) :
    weight (ms.insert m.fullPath ((ms.entry m w).1, w')) ≤ m.ancestors.length + 1 + weight ms := by
  unfold entry
  cases hknown : ms[m.fullPath]? with
  | none => exact Nat.le_of_eq (weight_insert_new hknown m w')
  | some entry =>
    have hsame := weight_insert_known hknown w'
    rw [Option.getD_some]
    omega

theorem eq_empty_of_weight (h : weight ms = 0) : ms.toList = [] := by
  cases hl : ms.toList with
  | nil => rfl
  | cons entry entries =>
    rw [weight_of_perm (by rw [hl])] at h
    omega

end Inlines

theorem foldl_select {α : Type} {f : Option α → α → Option α}
    (hf : ∀ best a, f best a = best ∨ f best a = some a) {as : List α} {best : Option α} {a : α}
    (h : as.foldl f best = some a) : best = some a ∨ a ∈ as := by
  induction as generalizing best with
  | nil => exact .inl h
  | cons b as ih =>
    rcases ih h with hb | hmem
    · rcases hf best b with heq | heq
      · rw [heq] at hb
        exact .inl hb
      · rw [heq] at hb
        cases hb
        exact .inr List.mem_cons_self
    · exact .inr (List.mem_cons_of_mem b hmem)

theorem deepest?_mem {ms : List (String × Module × Writer)} {entry : String × Module × Writer}
    (h : deepest? ms = some entry) : entry ∈ ms := by
  unfold deepest? at h
  have hselect := foldl_select (fun best a => ?_) h
  · exact hselect.resolve_left nofun
  · cases best with
    | none => exact .inr rfl
    | some b =>
      dsimp only
      split
      · exact .inr rfl
      · exact .inl rfl

section

open Inlines

variable {ms : Inlines}

variable {path : String} {m parent : Module} {w : Writer}

def intoFile (c : Crate) (m : Module) (w : Writer) : Crate :=
  (c.openFile m.fileOwner).modifyFile m.fileOwner.filePath (·.embed m w)

theorem intoFile_rest (c : Crate) (m : Module) (w : Writer) :
    ∃ files, c.intoFile m w = { c with files } := by
  obtain ⟨files, hrest⟩ := (Opens.openFile c m.fileOwner).rest
  rw [intoFile, hrest]
  exact ⟨_, rfl⟩

def intoParent (c : Crate) (ms : Inlines) (path : String) (m parent : Module) (w : Writer) :
    Inlines :=
  (ms.erase path).insert parent.fullPath
    ((entry (ms.erase path) parent (c.newInline parent)).1,
      (entry (ms.erase path) parent (c.newInline parent)).2.embed m w)

theorem embedModules_file (h : deepest? ms.toList = some (path, m, w))
    (hp : ∀ parent, m.parent? = some parent → parent.isInline = false) (steps : Nat) (c : Crate) :
    outcome (embedModules (steps + 1) ms) c =
      outcome (embedModules steps (ms.erase path)) (c.intoFile m w) := by
  rw [embedModules.eq_def (steps + 1) ms, h]
  dsimp only
  cases hm : m.parent? with
  | none => exact outcome_bind_ok (outcome_modify _ _)
  | some parent =>
    dsimp only
    rw [hp parent hm, if_neg Bool.false_ne_true]
    exact outcome_bind_ok (outcome_modify _ _)

theorem embedModules_parent (h : deepest? ms.toList = some (path, m, w))
    (hp : m.parent? = some parent) (hin : parent.isInline = true) (hr : parent.Rooted)
    (steps : Nat) (c : Crate) :
    outcome (embedModules (steps + 1) ms) c =
      outcome (embedModules steps (c.intoParent ms path m parent w)) c := by
  rw [embedModules.eq_def (steps + 1) ms, h]
  dsimp only
  rw [hp]
  dsimp only
  rw [hin, if_pos rfl]
  unfold intoParent Inlines.entry
  cases (ms.erase path)[parent.fullPath]? with
  | some entry => rfl
  | none =>
    dsimp only
    rw [outcome_bind_ok (outcome_get c), newInline?_rooted c hr]
    rfl

/-- A step of the embedding takes a module off, and adds at most its parent. -/
theorem embedModules_step (hms : ms.Rooted) (h : deepest? ms.toList = some (path, m, w))
    (c : Crate) :
    ∃ (ms' : Inlines) (files : Std.ExtTreeMap String Writer), ms'.Rooted ∧ ms'.weight < ms.weight ∧
      ∀ steps, outcome (embedModules (steps + 1) ms) c =
        outcome (embedModules steps ms') { c with files } := by
  have hm : ms[path]? = some (m, w) :=
    Std.ExtTreeMap.mem_toList_iff_getElem?_eq_some.mp (deepest?_mem h)
  have hweight := weight_erase hm
  have hrooted := hms.erase path
  by_cases hp : ∃ parent, m.parent? = some parent ∧ parent.isInline = true
  · obtain ⟨parent, hp, hin⟩ := hp
    have hparent := (hms _ _ _ hm).parent hp
    have hancestors := Module.ancestors_of_parent hp
    rw [hancestors, List.length_cons] at hweight
    have hentry := weight_insert_entry (ms.erase path) parent (c.newInline parent)
      ((entry (ms.erase path) parent (c.newInline parent)).2.embed m w)
    exact ⟨_, c.files, hrooted.insert _ (hrooted.entry hparent _) _, by omega,
      fun steps => embedModules_parent h hp hin hparent steps c⟩
  · obtain ⟨files, hfile⟩ := c.intoFile_rest m w
    refine ⟨ms.erase path, files, hrooted, by omega, fun steps => ?_⟩
    rw [embedModules_file h ?_ steps c, hfile]
    intro parent hparent
    rw [← Bool.not_eq_true]
    exact fun hin => hp ⟨parent, hparent, hin⟩

theorem embedModules_none (h : deepest? ms.toList = none) (steps : Nat) :
    embedModules steps ms = pure () := by
  rw [embedModules.eq_def, h]
  cases steps <;> rfl

/-- What a step that does not fail does with the deepest module. -/
theorem embedModules_ok_cases {steps : Nat} {c c' : Crate}
    (hd : deepest? ms.toList = some (path, m, w))
    (h : outcome (embedModules (steps + 1) ms) c = (.ok (), c')) :
    (∃ parent, m.parent? = some parent ∧ parent.isInline = true ∧
      outcome (embedModules steps (c.intoParent ms path m parent w)) c = (.ok (), c')) ∨
    outcome (embedModules steps (ms.erase path)) (c.intoFile m w) = (.ok (), c') := by
  by_cases hp : ∃ parent, m.parent? = some parent ∧ parent.isInline = true
  · obtain ⟨parent, hp, hin⟩ := hp
    refine .inl ⟨parent, hp, hin, ?_⟩
    rw [embedModules.eq_def, hd] at h
    dsimp only at h
    rw [hp] at h
    dsimp only at h
    rw [hin, if_pos rfl] at h
    unfold intoParent Inlines.entry
    cases hknown : (ms.erase path)[parent.fullPath]? with
    | some entry =>
      rw [hknown] at h
      exact h
    | none =>
      rw [hknown] at h
      dsimp only at h
      rw [outcome_bind_ok (outcome_get c)] at h
      cases hnew : c.newInline? parent with
      | error e =>
        rw [hnew] at h
        cases h
      | ok v =>
        rw [hnew, newInline?_eq hnew] at h
        exact h
  · right
    rw [embedModules_file hd ?_ steps c] at h
    · exact h
    · intro parent hparent
      rw [← Bool.not_eq_true]
      exact fun hin => hp ⟨parent, hparent, hin⟩

theorem embedModules_files {steps : Nat} {c c' : Crate}
    (h : outcome (embedModules steps ms) c = (.ok (), c')) : ∃ files, c' = { c with files } := by
  induction steps generalizing ms c with
  | zero =>
    rw [embedModules.eq_def] at h
    cases h
    exact ⟨_, rfl⟩
  | succ steps ih =>
    cases hd : deepest? ms.toList with
    | none =>
      rw [embedModules_none hd] at h
      cases h
      exact ⟨_, rfl⟩
    | some entry =>
      obtain ⟨path, m, w⟩ := entry
      rcases embedModules_ok_cases hd h with ⟨parent, -, -, hrest⟩ | hrest
      · exact ih hrest
      · obtain ⟨files, hfile⟩ := c.intoFile_rest m w
        rw [hfile] at hrest
        obtain ⟨files, rfl⟩ := ih hrest
        exact ⟨files, rfl⟩

theorem embedModules_ok (hms : ms.Rooted) (steps : Nat) (c : Crate) :
    ∃ files, outcome (embedModules steps ms) c = (.ok (), { c with files }) := by
  induction steps generalizing ms c with
  | zero =>
    rw [embedModules.eq_def]
    exact ⟨c.files, rfl⟩
  | succ steps ih =>
    cases h : deepest? ms.toList with
    | none =>
      rw [embedModules_none h]
      exact ⟨c.files, rfl⟩
    | some entry =>
      obtain ⟨path, m, w⟩ := entry
      obtain ⟨ms', files, hms', -, hstep⟩ := embedModules_step hms h c
      obtain ⟨files', hrest⟩ := ih hms' { c with files }
      rw [hstep, hrest]
      exact ⟨files', rfl⟩

/-- With as many steps as there are modules and ancestors, no module is left over. -/
theorem embedModules_of_weight_le (hms : ms.Rooted) {steps steps' : Nat} (h : ms.weight ≤ steps)
    (h' : ms.weight ≤ steps') (c : Crate) :
    outcome (embedModules steps ms) c = outcome (embedModules steps' ms) c := by
  induction steps generalizing ms steps' c with
  | zero =>
    have hempty := eq_empty_of_weight (Nat.le_zero.mp h)
    have hnone : deepest? ms.toList = none := by
      rw [hempty]
      rfl
    rw [embedModules_none hnone, embedModules_none hnone]
  | succ steps ih =>
    cases hd : deepest? ms.toList with
    | none => rw [embedModules_none hd, embedModules_none hd]
    | some entry =>
      obtain ⟨path, m, w⟩ := entry
      obtain ⟨ms', files, hms', hlt, hstep⟩ := embedModules_step hms hd c
      cases steps' with
      | zero => omega
      | succ steps' =>
        rw [hstep, hstep]
        exact ih hms' (by omega) (by omega) _

theorem embedAll_of_weight_le {c : Crate} (hc : Inlines.Rooted c.inlineModules) {steps : Nat}
    (h : Inlines.weight c.inlineModules ≤ steps) :
    outcome embedAll c =
      outcome (embedModules steps c.inlineModules) { c with inlineModules := ∅ } := by
  unfold embedAll
  rw [outcome_bind_ok (outcome_get c), outcome_bind_ok (outcome_modify _ _)]
  exact embedModules_of_weight_le hc (Nat.le_refl _) h _

theorem embedAll_files {c c' : Crate} (h : outcome embedAll c = (.ok (), c')) :
    ∃ files, c' = { c with files, inlineModules := ∅ } := by
  unfold embedAll at h
  rw [outcome_bind_ok (outcome_get c), outcome_bind_ok (outcome_modify _ _)] at h
  exact embedModules_files h

theorem embedAll_ok {c : Crate} (hc : Inlines.Rooted c.inlineModules) :
    ∃ files, outcome embedAll c = (.ok (), { c with files, inlineModules := ∅ }) := by
  unfold embedAll
  rw [outcome_bind_ok (outcome_get c), outcome_bind_ok (outcome_modify _ _)]
  exact embedModules_ok hc _ { c with inlineModules := ∅ }

end

end Crate

end CrateGen
