import CrateGen.Proofs.Code.Fuel
import CrateGen.Proofs.Code.Growth
import CrateGen.Proofs.SortedMap

namespace CrateGen

open CrateGen.Action

namespace Module

/-- The module on top is the crate, as it is however a module is built up. -/
def Rooted : Module → Prop
  | .top info => info.name = "crate"
  | .child parent _ => parent.Rooted

instance Rooted.decidable : (m : Module) → Decidable m.Rooted
  | .top info => inferInstanceAs (Decidable (info.name = "crate"))
  | .child parent _ => decidable parent

theorem rooted_root : root.Rooted :=
  rfl

theorem rooted_named (name : String) (visibility : Visibility) : (named name visibility).Rooted :=
  rfl

namespace Rooted

variable {m parent : Module}

theorem childOf (h : parent.Rooted) (m : Module) : (m.childOf parent).Rooted :=
  h

theorem mapInfo {f : ModuleInfo → ModuleInfo} (hf : ∀ info, (f info).name = info.name)
    (h : m.Rooted) : (m.mapInfo f).Rooted := by
  cases m with
  | top info => exact (hf info).trans h
  | child above info => exact h

theorem asInline (h : m.Rooted) : m.asInline.Rooted :=
  h.mapInfo fun _ => rfl

theorem documented (h : m.Rooted) (docs : String) : (m.documented docs).Rooted :=
  h.mapInfo fun _ => rfl

theorem fullPath (h : m.Rooted) :
    m.fullPath = "crate" ∨ Text.startsWith m.fullPath "crate::" = true := by
  induction m with
  | top info => exact .inl h
  | child parent info ih =>
    right
    unfold Text.startsWith
    rw [List.isPrefixOf_iff_prefix, Module.fullPath]
    simp only [String.toList_append]
    rcases ih h with hcrate | hbelow
    · rw [hcrate]
      exact ⟨info.name.toList, rfl⟩
    · unfold Text.startsWith at hbelow
      rw [List.isPrefixOf_iff_prefix] at hbelow
      exact (hbelow.trans (List.prefix_append _ _)).trans (List.prefix_append _ _)

end Rooted

end Module

/-- Nothing was written yet but declarations of child modules. -/
structure Writer.Blank (w : Writer) : Prop where
  page : w.page = {}
  preamble : w.preamble = []
  uses : w.uses = ∅
  dependencies : w.dependencies = {}

namespace Crate

variable {c c' c'' : Crate} {m : Module}

theorem newFile_blank (c : Crate) (m : Module) : (c.newFile m).Blank :=
  ⟨rfl, rfl, rfl, rfl⟩

def newInline (c : Crate) (m : Module) : Writer :=
  { file := m.filePath, ns := m.fullPath, showsBanner := false, debugMode := c.debugMode }

theorem newInline_blank (c : Crate) (m : Module) : (c.newInline m).Blank :=
  ⟨rfl, rfl, rfl, rfl⟩

theorem newInline?_eq {w : Writer} (h : c.newInline? m = .ok w) : w = c.newInline m := by
  unfold newInline? Writer.ofFile? at h
  dsimp only at h
  split at h
  · cases h
  · cases h
    rfl

theorem newInline?_rooted (c : Crate) (h : m.Rooted) : c.newInline? m = .ok (c.newInline m) := by
  have hcrate : (m.fullPath == "crate" || Text.startsWith m.fullPath "crate::") = true := by
    rcases h.fullPath with hp | hp
    · rw [hp]
      rfl
    · rw [hp, Bool.or_true]
  unfold newInline? Writer.ofFile?
  dsimp only
  rw [hcrate, Bool.not_true, Bool.and_false, Bool.false_and, if_neg Bool.false_ne_true]
  rfl

theorem getElem?_modifyFile (c : Crate) (path path' : String) (f : Writer → Writer) :
    (c.modifyFile path f).files[path']? =
      if path' = path then c.files[path']?.map f else c.files[path']? := by
  unfold modifyFile
  rw [Std.ExtTreeMap.getElem?_modify]
  by_cases heq : path' = path
  · subst heq
    rw [if_pos Std.compare_self, if_pos rfl]
  · rw [if_neg fun he => heq (Std.compare_eq_iff_eq.mp he).symm, if_neg heq]

/-- Files are opened: a writer that is there gets declarations at most, and what is new is blank. -/
structure Opens (c c' : Crate) : Prop where
  rest : ∃ files, c' = { c with files }
  kept : ∀ {path : String} {w : Writer}, c.files[path]? = some w →
    ∃ modules, c'.files[path]? = some { w with modules }
  opened : ∀ {path : String} {w : Writer}, c.files[path]? = none → c'.files[path]? = some w →
    w.Blank

namespace Opens

theorem refl (c : Crate) : Opens c c where
  rest := ⟨c.files, rfl⟩
  kept := fun {_ w} h => ⟨w.modules, h⟩
  opened h h' := by
    rw [h] at h'
    cases h'

theorem trans (h : Opens c c') (h' : Opens c' c'') : Opens c c'' where
  rest := by
    obtain ⟨files, rfl⟩ := h.rest
    obtain ⟨files', rfl⟩ := h'.rest
    exact ⟨files', rfl⟩
  kept hw := by
    obtain ⟨modules, hw⟩ := h.kept hw
    obtain ⟨modules', hw'⟩ := h'.kept hw
    exact ⟨modules', hw'⟩
  opened := by
    intro path w hc hw
    cases hc' : c'.files[path]? with
    | none => exact h'.opened hc' hw
    | some w' =>
      have hb := h.opened hc hc'
      obtain ⟨modules, hw'⟩ := h'.kept hc'
      rw [hw] at hw'
      cases hw'
      exact ⟨hb.page, hb.preamble, hb.uses, hb.dependencies⟩

theorem declare (c : Crate) (path : String) (m : Module) :
    Opens c (c.modifyFile path (·.declare m)) where
  rest := ⟨_, rfl⟩
  kept := by
    intro path' w hw
    rw [getElem?_modifyFile, hw]
    split
    · exact ⟨_, rfl⟩
    · exact ⟨w.modules, rfl⟩
  opened := by
    intro path' w hc hw
    rw [getElem?_modifyFile, hc, Option.map_none, ite_self] at hw
    cases hw

theorem newFile (c : Crate) (m : Module) (path : String) :
    Opens c { c with files := c.files.insertIfNew path (c.newFile m) } where
  rest := ⟨_, rfl⟩
  kept := fun {_ w} hw => ⟨w.modules, SortedMap.getElem?_insertIfNew_of_some hw _ _⟩
  opened := by
    intro path' w hc hw
    rw [Std.ExtTreeMap.getElem?_insertIfNew] at hw
    split at hw
    · cases hw
      exact c.newFile_blank m
    · rw [hc] at hw
      cases hw

theorem openChain (c : Crate) (ms : List Module) : Opens c (c.openChain ms) := by
  induction ms generalizing c with
  | nil => exact refl c
  | cons m above ih =>
    unfold Crate.openChain
    split
    · exact refl c
    · cases above with
      | nil => exact newFile c m m.filePath
      | cons parent above =>
        have hparent := (ih c).trans (declare _ parent.filePath m)
        exact hparent.trans (newFile _ m m.filePath)

theorem openFile (c : Crate) (m : Module) : Opens c (c.openFile m) :=
  openChain c m.fileChain

end Opens

theorem openChain_files {P : String → Writer → Prop}
    (hc : ∀ {path : String} {w : Writer}, c.files[path]? = some w → P path w)
    (hnew : ∀ m : Module, m.filePath ∉ c.files → P m.filePath (c.newFile m))
    (hdeclare : ∀ {path : String} {w : Writer} (m : Module), P path w → P path (w.declare m))
    (ms : List Module) {path : String} {w : Writer}
    (hw : (c.openChain ms).files[path]? = some w) : P path w := by
  induction ms generalizing path w with
  | nil => exact hc hw
  | cons m above ih =>
    have hinsert {c₁ : Crate} (hnewFile : c₁.newFile m = c.newFile m) (hm : m.filePath ∉ c.files)
        (hc₁ : ∀ {path : String} {w : Writer}, c₁.files[path]? = some w → P path w)
        (hw : (c₁.files.insertIfNew m.filePath (c₁.newFile m))[path]? = some w) : P path w := by
      rw [Std.ExtTreeMap.getElem?_insertIfNew] at hw
      split at hw
      · next hpath =>
        cases hw
        rw [← Std.compare_eq_iff_eq.mp hpath.1, hnewFile]
        exact hnew m hm
      · exact hc₁ hw
    unfold openChain at hw
    split at hw
    · exact hc hw
    · next hm =>
      rw [Std.ExtTreeMap.contains_iff_mem] at hm
      cases above with
      | nil => exact hinsert rfl hm hc hw
      | cons parent above =>
        obtain ⟨files, hrest⟩ := (Opens.openChain c (parent :: above)).rest
        refine hinsert ?_ hm ?_ hw
        · rw [hrest]
          rfl
        · intro path w hw
          rw [getElem?_modifyFile] at hw
          split at hw
          · obtain ⟨w', hw', rfl⟩ := Option.map_eq_some_iff.mp hw
            exact hdeclare m (ih hw')
          · exact ih hw

theorem openFile_of_mem {w : Writer} (h : c.files[m.filePath]? = some w) : c.openFile m = c := by
  unfold openFile Module.fileChain openChain
  rw [Std.ExtTreeMap.contains_eq_isSome_getElem?, h]
  rfl

theorem exists_openFile (c : Crate) (m : Module) :
    ∃ w, (c.openFile m).files[m.filePath]? = some w := by
  unfold openFile Module.fileChain openChain
  split
  · next h =>
    rw [Std.ExtTreeMap.contains_eq_isSome_getElem?] at h
    exact Option.isSome_iff_exists.mp h
  · exact SortedMap.mem_iff.mp Std.ExtTreeMap.mem_insertIfNew_self

def writerOf? (c : Crate) (m : Module) : Option Writer :=
  if m.isInline then c.inlineModules[m.fullPath]?.map (·.2) else c.files[m.filePath]?

/-- The writer that code for a module runs on: the writer of the module, which is new if there is
none yet. -/
def target (c : Crate) (m : Module) : Writer :=
  if m.isInline then (c.inlineModules[m.fullPath]?.map (·.2)).getD (c.newInline m)
  else (c.openFile m).files[m.filePath]?.getD (c.newFile m)

theorem openFile_target (c : Crate) (hm : m.isInline = false) :
    (c.openFile m).files[m.filePath]? = some (c.target m) := by
  obtain ⟨w, hw⟩ := c.exists_openFile m
  unfold target
  rw [hm, if_neg Bool.false_ne_true, hw]
  rfl

theorem target_eq {w : Writer} (h : c.writerOf? m = some w) : c.target m = w := by
  unfold writerOf? at h
  unfold target
  cases hm : m.isInline with
  | true =>
    rw [hm, if_pos rfl] at h
    rw [if_pos rfl, h]
    rfl
  | false =>
    rw [hm, if_neg Bool.false_ne_true] at h
    rw [if_neg Bool.false_ne_true, openFile_of_mem h, h]
    rfl

/-- Code runs once, on the writer of a module. Of every other writer only the declarations of child
modules change, and every other writer that is new is blank. -/
structure Writes (m : Module) (code : Code) (c c' : Crate) : Prop where
  rest : ∃ files inlineModules, c' = { c with files, inlineModules }
  own : ∃ (fuel : Nat) (w : Writer),
    outcome (code.run fuel) (c.target m) = (.ok (), w) ∧ c'.writerOf? m = some w
  kept : ∀ {path : String} {w : Writer}, m.isInline = true ∨ path ≠ m.filePath →
    c.files[path]? = some w → ∃ modules, c'.files[path]? = some { w with modules }
  opened : ∀ {path : String} {w : Writer}, m.isInline = true ∨ path ≠ m.filePath →
    c.files[path]? = none → c'.files[path]? = some w → w.Blank
  inlineModules : ∀ {path : String}, m.isInline = false ∨ path ≠ m.fullPath →
    c'.inlineModules[path]? = c.inlineModules[path]?
  modules : ∀ {path : String} {m' : Module} {w' : Writer},
    c'.inlineModules[path]? = some (m', w') →
      m' = m ∨ ∃ w, c.inlineModules[path]? = some (m', w)

variable {fuel : Nat} {code : Code}

theorem write_file (fuel : Nat) (code : Code) (c : Crate) (hm : m.isInline = false) :
    outcome (write fuel m code) c = ((outcome (code.run fuel) (c.target m)).1,
      { c.openFile m with
        files := (c.openFile m).files.insert m.filePath
          (outcome (code.run fuel) (c.target m)).2 }) := by
  unfold write onModule
  rw [hm, if_neg Bool.false_ne_true, outcome_bind_ok (outcome_modify _ _),
    outcome_onFile _ _ (c.openFile_target hm)]

theorem write_file_ok (hm : m.isInline = false)
    (h : outcome (write fuel m code) c = (.ok (), c')) :
    ∃ w, outcome (code.run fuel) (c.target m) = (.ok (), w) ∧
      c' = { c.openFile m with files := (c.openFile m).files.insert m.filePath w } := by
  rw [write_file fuel code c hm] at h
  obtain ⟨hok, hc'⟩ := Prod.mk.inj h
  exact ⟨_, Prod.ext hok rfl, hc'.symm⟩

theorem Writes.of_file (hm : m.isInline = false)
    (h : outcome (write fuel m code) c = (.ok (), c')) : Writes m code c c' := by
  obtain ⟨w, hrun, rfl⟩ := write_file_ok hm h
  have hopen := Opens.openFile c m
  obtain ⟨files, hrest⟩ := hopen.rest
  have hinline : (c.openFile m).inlineModules = c.inlineModules := by
    rw [hrest]
  have hother {path : String} (hpath : m.isInline = true ∨ path ≠ m.filePath) :
      ((c.openFile m).files.insert m.filePath w)[path]? = (c.openFile m).files[path]? := by
    rw [hm] at hpath
    exact SortedMap.getElem?_insert_ne _ _ (hpath.resolve_left Bool.false_ne_true)
  constructor
  · exact ⟨_, _, by rw [hrest]⟩
  · refine ⟨fuel, w, hrun, ?_⟩
    unfold writerOf?
    rw [hm, if_neg Bool.false_ne_true]
    exact Std.ExtTreeMap.getElem?_insert_self
  · intro path w hpath hw
    rw [hother hpath]
    exact hopen.kept hw
  · intro path w hpath hw hw'
    rw [hother hpath] at hw'
    exact hopen.opened hw hw'
  · intro path _
    rw [hinline]
  · intro path m' w' hw'
    rw [hinline] at hw'
    exact .inr ⟨w', hw'⟩

def inlineEntry (c : Crate) (m : Module) : Module × Writer :=
  c.inlineModules[m.fullPath]?.getD (m, c.newInline m)

theorem inlineEntry_cases (c : Crate) (m : Module) :
    c.inlineModules[m.fullPath]? = none ∧ c.inlineEntry m = (m, c.newInline m) ∨
      c.inlineModules[m.fullPath]? = some (c.inlineEntry m) := by
  unfold inlineEntry
  cases c.inlineModules[m.fullPath]? with
  | none => exact .inl ⟨rfl, rfl⟩
  | some entry => exact .inr rfl

theorem target_inline (c : Crate) (hm : m.isInline = true) :
    c.target m = (c.inlineEntry m).2 := by
  unfold target inlineEntry
  rw [hm, if_pos rfl]
  cases c.inlineModules[m.fullPath]? <;> rfl

theorem openInline_cases (c : Crate) (m : Module) :
    outcome (openInline m) c = (.ok (), { c with
        inlineModules := c.inlineModules.insert m.fullPath (c.inlineEntry m) }) ∨
      ∃ e, c.newInline? m = .error e ∧ outcome (openInline m) c = (.error (.failed e), c) := by
  unfold openInline inlineEntry
  rw [outcome_bind_ok (outcome_get c), Std.ExtTreeMap.contains_eq_isSome_getElem?]
  cases hc : c.inlineModules[m.fullPath]? with
  | some entry =>
    left
    rw [Option.getD_some, SortedMap.insert_self hc]
    rfl
  | none =>
    cases hnew : c.newInline? m with
    | error e => exact .inr ⟨e, rfl, rfl⟩
    | ok w =>
      left
      rw [newInline?_eq hnew]
      rfl

theorem openInline_ok (c : Crate) (hm : m.Rooted) :
    outcome (openInline m) c = (.ok (), { c with
      inlineModules := c.inlineModules.insert m.fullPath (c.inlineEntry m) }) := by
  rcases openInline_cases c m with hok | ⟨e, he, -⟩
  · exact hok
  · rw [newInline?_rooted c hm] at he
    cases he

theorem openInline_eq (h : outcome (openInline m) c = (.ok (), c')) :
    c' = { c with inlineModules := c.inlineModules.insert m.fullPath (c.inlineEntry m) } := by
  rcases openInline_cases c m with hok | ⟨e, -, herror⟩
  · rw [h] at hok
    cases hok
    rfl
  · rw [h] at herror
    cases herror

theorem write_inline (fuel : Nat) (code : Code) (hm : m.isInline = true)
    (h : outcome (openInline m) (c.openFile m.fileOwner) = (.ok (), c')) :
    outcome (write fuel m code) c = ((outcome (code.run fuel) (c.target m)).1,
      { c.openFile m.fileOwner with
        inlineModules := c.inlineModules.insert m.fullPath
          ((c.inlineEntry m).1, (outcome (code.run fuel) (c.target m)).2) }) := by
  obtain ⟨files, hrest⟩ := (Opens.openFile c m.fileOwner).rest
  have hentry : (c.openFile m.fileOwner).inlineEntry m = c.inlineEntry m := by
    rw [hrest]
    rfl
  have hinline : (c.openFile m.fileOwner).inlineModules = c.inlineModules := by
    rw [hrest]
  have hc' := openInline_eq h
  subst hc'
  unfold write onModule
  rw [hm, if_pos rfl, outcome_bind_ok (outcome_modify _ _), outcome_bind_ok h, hentry, hinline,
    outcome_onInline _ _ Std.ExtTreeMap.getElem?_insert_self, SortedMap.insert_insert,
    target_inline c hm]
  rfl

theorem write_inline_cases (fuel : Nat) (code : Code) (c : Crate) (hm : m.isInline = true) :
    outcome (write fuel m code) c = ((outcome (code.run fuel) (c.target m)).1,
        { c.openFile m.fileOwner with
          inlineModules := c.inlineModules.insert m.fullPath
            ((c.inlineEntry m).1, (outcome (code.run fuel) (c.target m)).2) }) ∨
      ∃ e, outcome (write fuel m code) c = (.error (.failed e), c.openFile m.fileOwner) := by
  rcases openInline_cases (c.openFile m.fileOwner) m with hok | ⟨e, -, herror⟩
  · exact .inl (write_inline fuel code hm hok)
  · refine .inr ⟨e, ?_⟩
    unfold write onModule
    rw [hm, if_pos rfl, outcome_bind_ok (outcome_modify _ _), outcome_bind, herror]

theorem write_inline_ok (hm : m.isInline = true)
    (h : outcome (write fuel m code) c = (.ok (), c')) :
    ∃ w, outcome (code.run fuel) (c.target m) = (.ok (), w) ∧
      c' = { c.openFile m.fileOwner with
        inlineModules := c.inlineModules.insert m.fullPath ((c.inlineEntry m).1, w) } := by
  have hwrite := h
  unfold write onModule at hwrite
  rw [hm, if_pos rfl, outcome_bind_ok (outcome_modify _ _)] at hwrite
  obtain ⟨_, _, hinline, -⟩ := outcome_bind_eq_ok.mp hwrite
  rw [write_inline fuel code hm hinline] at h
  obtain ⟨hok, hc'⟩ := Prod.mk.inj h
  exact ⟨_, Prod.ext hok rfl, hc'.symm⟩

theorem Writes.of_inline (hm : m.isInline = true)
    (h : outcome (write fuel m code) c = (.ok (), c')) : Writes m code c c' := by
  obtain ⟨w, hrun, rfl⟩ := write_inline_ok hm h
  have hopen := Opens.openFile c m.fileOwner
  obtain ⟨files, hrest⟩ := hopen.rest
  constructor
  · exact ⟨_, _, by rw [hrest]⟩
  · refine ⟨fuel, w, hrun, ?_⟩
    unfold writerOf?
    rw [hm, if_pos rfl, Std.ExtTreeMap.getElem?_insert_self]
    rfl
  · intro path w _ hw
    exact hopen.kept hw
  · intro path w _ hw hw'
    exact hopen.opened hw hw'
  · intro path hpath
    rw [hm] at hpath
    exact SortedMap.getElem?_insert_ne _ _ (hpath.resolve_left Bool.true_eq_false.mp)
  · intro path m' w' hw'
    rcases SortedMap.getElem?_insert_eq_some.mp hw' with ⟨rfl, hentry⟩ | ⟨-, hold⟩
    · cases hentry
      rcases c.inlineEntry_cases m with ⟨-, hnew⟩ | hknown
      · exact .inl (congrArg Prod.fst hnew)
      · exact .inr ⟨_, hknown⟩
    · exact .inr ⟨w', hold⟩

theorem write_ok (h : outcome (write fuel m code) c = (.ok (), c')) : Writes m code c c' := by
  cases hm : m.isInline with
  | false => exact .of_file hm h
  | true => exact .of_inline hm h

theorem exists_write (hr : m.Rooted) {w : Writer}
    (h : outcome (code.run fuel) (c.target m) = (.ok (), w)) :
    ∃ c', outcome (write fuel m code) c = (.ok (), c') := by
  cases hm : m.isInline with
  | false =>
    rw [write_file fuel code c hm, h]
    exact ⟨_, rfl⟩
  | true =>
    rw [write_inline fuel code hm (openInline_ok _ hr), h]
    exact ⟨_, rfl⟩

def items (c : Crate) : List (InlineItem Code) :=
  c.writers.flatMap fun w => w.dependencies.inline.values

theorem mem_writers {w : Writer} :
    w ∈ c.writers ↔
      (∃ path : String, c.files[path]? = some w) ∨
        ∃ (path : String) (m : Module), c.inlineModules[path]? = some (m, w) := by
  simp only [writers, List.mem_append, List.mem_map, SortedMap.mem_values, Prod.exists,
    exists_eq_right]
  constructor
  · rintro (h | ⟨m, path, h⟩)
    · exact .inl h
    · exact .inr ⟨path, m, h⟩
  · rintro (h | ⟨path, m, h⟩)
    · exact .inl h
    · exact .inr ⟨m, path, h⟩

theorem mem_items {i : InlineItem Code} :
    i ∈ c.items ↔ ∃ w ∈ c.writers, ∃ k : String, w.dependencies.inline[k]? = some i := by
  simp only [items, List.mem_flatMap, SortedMap.mem_values]

theorem mem_writers_of_writerOf? {w : Writer} (h : c.writerOf? m = some w) : w ∈ c.writers := by
  apply mem_writers.mpr
  unfold writerOf? at h
  split at h
  · obtain ⟨⟨m', w'⟩, hentry, rfl⟩ := Option.map_eq_some_iff.mp h
    exact .inr ⟨_, m', hentry⟩
  · exact .inl ⟨_, h⟩

namespace Writes

theorem own_within (h : Writes m code c c') {w : Writer} (hw : c.writerOf? m = some w) :
    ∃ w' ∈ c'.writers, w.dependencies.Within w'.dependencies := by
  obtain ⟨fuel, w', hrun, hw'⟩ := h.own
  have hgrows := code.run_grows fuel (c.target m)
  rw [hrun, target_eq hw] at hgrows
  exact ⟨w', mem_writers_of_writerOf? hw', hgrows⟩

theorem writer_within (h : Writes m code c c') {w : Writer} (hw : w ∈ c.writers) :
    ∃ w' ∈ c'.writers, w.dependencies.Within w'.dependencies := by
  rcases mem_writers.mp hw with ⟨path, hfile⟩ | ⟨path, m', hinline⟩
  · by_cases hown : m.isInline = false ∧ path = m.filePath
    · obtain ⟨hm, rfl⟩ := hown
      apply h.own_within
      unfold writerOf?
      rw [hm, if_neg Bool.false_ne_true, hfile]
    · have hother : m.isInline = true ∨ path ≠ m.filePath := by
        rw [← Bool.not_eq_false]
        exact Decidable.not_and_iff_not_or_not.mp hown
      obtain ⟨modules, hw'⟩ := h.kept hother hfile
      exact ⟨_, mem_writers.mpr (.inl ⟨path, hw'⟩), .refl _⟩
  · by_cases hown : m.isInline = true ∧ path = m.fullPath
    · obtain ⟨hm, rfl⟩ := hown
      apply h.own_within
      unfold writerOf?
      rw [hm, if_pos rfl, hinline]
      rfl
    · have hother : m.isInline = false ∨ path ≠ m.fullPath := by
        rw [← Bool.not_eq_true]
        exact Decidable.not_and_iff_not_or_not.mp hown
      have hw' := h.inlineModules hother
      rw [hinline] at hw'
      exact ⟨w, mem_writers.mpr (.inr ⟨path, m', hw'⟩), .refl _⟩

/-- An inline item that some writer refers to is not lost. -/
theorem items_grow (h : Writes m code c c') {i : InlineItem Code} (hi : i ∈ c.items) :
    i ∈ c'.items := by
  obtain ⟨w, hw, k, hk⟩ := mem_items.mp hi
  obtain ⟨w', hw', hwithin⟩ := h.writer_within hw
  exact mem_items.mpr ⟨w', hw', k, hwithin k i hk⟩

end Writes

end Crate

end CrateGen
