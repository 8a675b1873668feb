import CrateGen.Proofs.Code.ModuleTree

namespace CrateGen

namespace Module

variable {m m' parent : Module} {ms : List Module}

/-- The modules and those above them are below the crate and told apart by their paths, also by
those of their files, and no module with a file of its own is below an inline one. -/
structure Separate (ms : List Module) : Prop where
  rooted : ∀ m ∈ closure ms, m.Rooted
  same : ∀ m ∈ closure ms, ∀ m' ∈ closure ms, m.fullPath = m'.fullPath → m = m'
  files : ∀ m ∈ closure ms, ∀ m' ∈ closure ms, m.isInline = false → m'.isInline = false →
    m.fullPath ≠ m'.fullPath → m.filePath ≠ m'.filePath
  nested : ∀ m ∈ closure ms, ∀ parent ∈ m.parent?, parent.isInline = true → m.isInline = true

instance Separate.decidable (ms : List Module) : Decidable (Separate ms) :=
  decidable_of_iff
    ((∀ m ∈ closure ms, m.Rooted) ∧
      (∀ m ∈ closure ms, ∀ m' ∈ closure ms, m.fullPath = m'.fullPath → m = m') ∧
      (∀ m ∈ closure ms, ∀ m' ∈ closure ms, m.isInline = false → m'.isInline = false →
        m.fullPath ≠ m'.fullPath → m.filePath ≠ m'.filePath) ∧
      ∀ m ∈ closure ms, ∀ parent ∈ m.parent?, parent.isInline = true → m.isInline = true)
    ⟨fun ⟨rooted, same, files, nested⟩ => ⟨rooted, same, files, nested⟩,
      fun h => ⟨h.rooted, h.same, h.files, h.nested⟩⟩

theorem segments_fileOwner_le (m : Module) :
    m.fileOwner.segments.length ≤ m.segments.length := by
  induction m with
  | top info => exact Nat.le_refl _
  | child parent info ih =>
    unfold fileOwner
    split
    · rw [segments, List.length_append]
      exact Nat.le_trans ih (Nat.le_add_right _ _)
    · exact Nat.le_refl _

theorem isInline_of_owner (hm : m.fileOwner = m) (hp : m.parent? = some parent) :
    m.isInline = false := by
  rw [← Bool.not_eq_true]
  intro hin
  cases m with
  | top info => cases hp
  | child above info =>
    cases hp
    rw [fileOwner_of_inline hin rfl] at hm
    have hle := segments_fileOwner_le parent
    rw [hm, segments, List.length_append, List.length_singleton] at hle
    exact Nat.not_succ_le_self _ hle

theorem fileOwner_mem_closure (hm : m ∈ closure ms) : m.fileOwner ∈ closure ms := by
  induction m with
  | top info => exact hm
  | child parent info ih =>
    unfold fileOwner
    split
    · exact ih (parent_mem_closure hm rfl)
    · exact hm

/-- The lists begin with a module and go on with the file modules above it. A file belongs to one
of them, and no two modules of a name are declared in one file. -/
structure Lineage (S : List Module → Prop) : Prop where
  above : ∀ {m ms}, S (m :: ms) → S ms
  same : ∀ {m ms m' ms'}, S (m :: ms) → S (m' :: ms') → m.filePath = m'.filePath →
    m :: ms = m' :: ms'
  siblings : ∀ {m m' parent ms}, S (m :: parent :: ms) → S (m' :: parent :: ms) →
    m.name = m'.name → m = m'

theorem Lineage.suffix {S : List Module → Prop} (hS : Lineage S) {l l' : List Module} (hl : S l)
    (h : l' <:+ l) : S l' := by
  induction l with
  | nil =>
    rw [List.suffix_nil.mp h]
    exact hl
  | cons m ms ih =>
    rcases List.suffix_cons_iff.mp h with rfl | h
    · exact hl
    · exact ih (hS.above hl) h

namespace Separate

variable (h : Separate ms)
include h

/-- Where the crate is inline, all modules are. -/
theorem top_inline {t : Module} (ht : t ∈ closure ms) (htop : t.parent? = none)
    (hin : t.isInline = true) (hm : m ∈ closure ms) : m.isInline = true := by
  induction m with
  | top info =>
    have hpath : (top info).fullPath = t.fullPath := by
      have hroot := h.rooted _ ht
      cases t with
      | top info' => exact (h.rooted _ hm).trans hroot.symm
      | child above info' => cases htop
    rw [h.same _ hm t ht hpath]
    exact hin
  | child parent info ih =>
    have hparent := parent_mem_closure hm rfl
    exact h.nested _ hm parent rfl (ih hparent)

theorem eq_of_filePath (hm : m ∈ closure ms) (hm' : m' ∈ closure ms) (howner : m.fileOwner = m)
    (howner' : m'.fileOwner = m') (hpath : m.filePath = m'.filePath) : m = m' := by
  have hinline {m m' : Module} (hm : m ∈ closure ms) (hm' : m' ∈ closure ms)
      (howner : m.fileOwner = m) (howner' : m'.fileOwner = m') (hin : m.isInline = true) :
      m = m' := by
    have htop {m : Module} (howner : m.fileOwner = m) (hin : m.isInline = true) :
        m.parent? = none := by
      cases hp : m.parent? with
      | none => rfl
      | some parent =>
        rw [isInline_of_owner howner hp] at hin
        cases hin
    have hnone := htop howner hin
    have hnone' := htop howner' (h.top_inline hm hnone hin hm')
    have hroot := h.rooted m hm
    have hroot' := h.rooted m' hm'
    cases m with
    | child above info => cases hnone
    | top info =>
      cases m' with
      | child above info' => cases hnone'
      | top info' => exact h.same _ hm _ hm' (hroot.trans hroot'.symm)
  cases hin : m.isInline with
  | true => exact hinline hm hm' howner howner' hin
  | false =>
    cases hin' : m'.isInline with
    | true => exact (hinline hm' hm howner' howner hin').symm
    | false =>
      apply h.same m hm m' hm'
      by_contra hne
      exact h.files m hm m' hm' hin hin' hne hpath

theorem lineage :
    Lineage fun l => l = [] ∨ ∃ m ∈ closure ms, m.fileOwner = m ∧ l = m.fileChain := by
  have hhead {m m' : Module} {l : List Module} (h : m :: l = m'.fileChain) : m = m' :=
    (List.cons.inj h).1
  constructor
  · rintro m l (hl | ⟨m', hm', howner, hl⟩)
    · cases hl
    · have heq := hhead hl
      subst heq
      cases hp : m.parent? with
      | none =>
        left
        cases m with
        | top info => exact (List.cons.inj hl).2
        | child above info => cases hp
      | some parent =>
        rw [fileChain_of_parent hp] at hl
        exact .inr ⟨_, fileOwner_mem_closure (parent_mem_closure hm' hp),
          fileOwner_fileOwner parent, (List.cons.inj hl).2⟩
  · rintro m l m' l' (hl | ⟨_, hm, howner, hl⟩) (hl' | ⟨_, hm', howner', hl'⟩) hpath
    · cases hl
    · cases hl
    · cases hl'
    · have heq := hhead hl
      have heq' := hhead hl'
      subst heq
      subst heq'
      rw [hl, hl', h.eq_of_filePath hm hm' howner howner' hpath]
  · rintro m m' parent l (hl | ⟨_, hm, howner, hl⟩) (hl' | ⟨_, hm', howner', hl'⟩) hname
    · cases hl
    · cases hl
    · cases hl'
    · have heq := hhead hl
      have heq' := hhead hl'
      subst heq
      subst heq'
      have hparent {m : Module} (hm : m ∈ closure ms) (howner : m.fileOwner = m)
          (hl : m :: parent :: l = m.fileChain) : m.parent? = some parent := by
        cases hp : m.parent? with
        | none =>
          cases m with
          | top info => cases (List.cons.inj hl).2
          | child above info => cases hp
        | some p =>
          rw [fileChain_of_parent hp] at hl
          have hfile : p.isInline = false := by
            rw [← Bool.not_eq_true]
            intro hin
            have hnot := isInline_of_owner howner hp
            rw [h.nested m hm p hp hin] at hnot
            cases hnot
          rw [fileOwner_of_file hfile] at hl
          rw [hhead (List.cons.inj hl).2]
      apply h.same m hm m' hm'
      rw [fullPath_of_parent (hparent hm howner hl), fullPath_of_parent (hparent hm' howner' hl'),
        hname]

end Separate

end Module

theorem Writer.declare_comm (w : Writer) {m m' : Module} (h : m.name ≠ m'.name) :
    (w.declare m).declare m' = (w.declare m').declare m := by
  unfold Writer.declare
  rw [SortedMap.insert_comm w.modules _ _ h]

namespace Crate

variable {m m' : Module} {ms ms' : List Module}

/-- Adds the file of a module and declares it in the file of the next of its chain. -/
def addFile (c : Crate) (m : Module) (ms : List Module) : Crate :=
  let c' := match ms with
    | [] => c
    | parent :: _ => c.modifyFile parent.filePath (·.declare m)
  { c' with files := c'.files.insertIfNew m.filePath (c'.newFile m) }

theorem openChain_of_mem {c : Crate} (h : m.filePath ∈ c.files) : c.openChain (m :: ms) = c := by
  unfold openChain
  rw [Std.ExtTreeMap.contains_iff_mem.mpr h, if_pos rfl]

theorem openChain_of_not_mem {c : Crate} (h : m.filePath ∉ c.files) :
    c.openChain (m :: ms) = (c.openChain ms).addFile m ms := by
  cases ms <;> exact if_neg (Std.ExtTreeMap.contains_iff_mem.not.mpr h)

theorem addFile_rest (c : Crate) (m : Module) (ms : List Module) :
    c.addFile m ms = { c with files := (c.addFile m ms).files } := by
  cases ms <;> rfl

/-- The file in which the module in front of a chain is declared. -/
def hostPath? (ms : List Module) : Option String :=
  ms.head?.map (·.filePath)

theorem getElem?_addFile {c : Crate} (h : m.filePath ∉ c.files) (ms : List Module)
    (path : String) :
    (c.addFile m ms).files[path]? =
      if path = m.filePath then some (c.newFile m)
      else if hostPath? ms = some path then c.files[path]?.map (·.declare m)
      else c.files[path]? := by
  have hnew (files : Std.ExtTreeMap String Writer) (hfiles : m.filePath ∉ files) (w : Writer) :
      (files.insertIfNew m.filePath w)[path]? =
        if path = m.filePath then some w else files[path]? := by
    rw [Std.ExtTreeMap.getElem?_insertIfNew]
    by_cases hpath : path = m.filePath
    · subst hpath
      rw [if_pos ⟨Std.compare_self, hfiles⟩, if_pos rfl]
    · rw [if_neg fun heq => hpath (Std.compare_eq_iff_eq.mp heq.1).symm, if_neg hpath]
  cases ms with
  | nil => exact hnew c.files h _
  | cons parent ms =>
    have hmodify : m.filePath ∉ (c.modifyFile parent.filePath (·.declare m)).files := by
      unfold modifyFile
      rwa [Std.ExtTreeMap.mem_modify]
    refine (hnew _ hmodify _).trans ?_
    rw [getElem?_modifyFile]
    congr 1
    change _ = if some parent.filePath = some path then _ else _
    simp only [Option.some.injEq, eq_comm]

theorem mem_addFile {c : Crate} {path : String} :
    path ∈ (c.addFile m ms).files ↔ path = m.filePath ∨ path ∈ c.files := by
  unfold addFile
  rw [Std.ExtTreeMap.mem_insertIfNew, Std.compare_eq_iff_eq, eq_comm]
  cases ms with
  | nil => rfl
  | cons parent ms =>
    refine or_congr_right ?_
    unfold modifyFile
    rw [Std.ExtTreeMap.mem_modify]

/-- Files of different modules can be added in either order, if neither is the file in which the
other is declared and the names of what is declared in one file differ. -/
theorem addFile_comm {c : Crate} (h : m.filePath ∉ c.files) (h' : m'.filePath ∉ c.files)
    (hne : m.filePath ≠ m'.filePath) (hhost : hostPath? ms ≠ some m'.filePath)
    (hhost' : hostPath? ms' ≠ some m.filePath)
    (hname : ∀ path, hostPath? ms = some path → hostPath? ms' = some path → m.name ≠ m'.name) :
    (c.addFile m ms).addFile m' ms' = (c.addFile m' ms').addFile m ms := by
  have hm' : m'.filePath ∉ (c.addFile m ms).files := by
    rw [mem_addFile, not_or]
    exact ⟨hne.symm, h'⟩
  have hm : m.filePath ∉ (c.addFile m' ms').files := by
    rw [mem_addFile, not_or]
    exact ⟨hne, h⟩
  have hfiles : ((c.addFile m ms).addFile m' ms').files =
      ((c.addFile m' ms').addFile m ms).files := by
    apply Std.ExtTreeMap.ext_getElem?
    intro path
    have hnewFile : (c.addFile m ms).newFile m' = c.newFile m' := by
      rw [addFile_rest]
      rfl
    have hnewFile' : (c.addFile m' ms').newFile m = c.newFile m := by
      rw [addFile_rest]
      rfl
    rw [getElem?_addFile hm', getElem?_addFile hm, getElem?_addFile h, getElem?_addFile h',
      hnewFile, hnewFile']
    by_cases hpath : path = m.filePath
    · subst hpath
      rw [if_neg hne, if_neg hhost', if_pos rfl, if_pos rfl]
    by_cases hpath' : path = m'.filePath
    · subst hpath'
      rw [if_pos rfl, if_neg hpath, if_neg hhost, if_pos rfl]
    rw [if_neg hpath, if_neg hpath', if_neg hpath, if_neg hpath']
    by_cases hms : hostPath? ms = some path
    · by_cases hms' : hostPath? ms' = some path
      · rw [if_pos hms, if_pos hms', if_pos hms, if_pos hms', Option.map_map, Option.map_map]
        congr 1
        funext w
        exact w.declare_comm (hname path hms hms')
      · rw [if_neg hms', if_neg hms']
    · rw [if_neg hms, if_neg hms]
  rw [addFile_rest (c.addFile m ms), addFile_rest (c.addFile m' ms'), hfiles, addFile_rest c m,
    addFile_rest c m']

theorem mem_openChain_of_mem {c : Crate} {path : String} (h : path ∈ c.files) (ms : List Module) :
    path ∈ (c.openChain ms).files := by
  obtain ⟨w, hw⟩ := SortedMap.mem_iff.mp h
  obtain ⟨modules, hw'⟩ := (Opens.openChain c ms).kept hw
  exact SortedMap.mem_iff.mpr ⟨_, hw'⟩

theorem mem_openChain_head (c : Crate) (m : Module) (ms : List Module) :
    m.filePath ∈ (c.openChain (m :: ms)).files := by
  by_cases h : m.filePath ∈ c.files
  · rw [openChain_of_mem h]
    exact h
  · rw [openChain_of_not_mem h]
    exact mem_addFile.mpr (.inl rfl)

theorem hostPath?_eq_some {path : String} (h : hostPath? ms = some path) :
    ∃ parent above, ms = parent :: above ∧ parent.filePath = path := by
  cases ms with
  | nil => cases h
  | cons parent above => exact ⟨parent, above, rfl, Option.some.inj h⟩

theorem mem_openChain_host {c : Crate} {path : String} (h : hostPath? ms = some path) :
    path ∈ (c.openChain ms).files := by
  obtain ⟨parent, above, rfl, rfl⟩ := hostPath?_eq_some h
  exact mem_openChain_head c parent above

theorem exists_suffix_of_mem {c : Crate} {path : String} (h : path ∉ c.files)
    (h' : path ∈ (c.openChain ms).files) : ∃ m ms', m :: ms' <:+ ms ∧ m.filePath = path := by
  induction ms with
  | nil => exact absurd h' h
  | cons m ms ih =>
    by_cases hm : m.filePath ∈ c.files
    · rw [openChain_of_mem hm] at h'
      exact absurd h' h
    by_cases hms : path ∈ (c.openChain ms).files
    · obtain ⟨m', ms', hsuffix, hpath⟩ := ih hms
      exact ⟨m', ms', hsuffix.trans (List.suffix_cons m ms), hpath⟩
    · rw [openChain_of_not_mem hm, mem_addFile, or_iff_left hms] at h'
      exact ⟨m, ms, List.suffix_refl _, h'.symm⟩

section

variable {S : List Module → Prop} (hS : Module.Lineage S) {c : Crate}
include hS

/-- A module that is opened with a chain is on it, together with all that is above it. -/
theorem suffix_of_mem_openChain (hm : S (m :: ms)) (hms' : S ms') (h : m.filePath ∉ c.files)
    (h' : m.filePath ∈ (c.openChain ms').files) : m :: ms <:+ ms' := by
  obtain ⟨m', above, hsuffix, hpath⟩ := exists_suffix_of_mem h h'
  rw [← hS.same (hS.suffix hms' hsuffix) hm hpath]
  exact hsuffix

theorem not_mem_openChain_above (hm : S (m :: ms)) (h : m.filePath ∉ c.files) :
    m.filePath ∉ (c.openChain ms).files := by
  intro h'
  have hle := (suffix_of_mem_openChain hS hm (hS.above hm) h h').length_le
  exact Nat.not_succ_le_self _ hle

/-- Where the first module of a chain is opened with another chain, that one opens the whole
chain. -/
theorem openChain_absorb (hm : S (m :: ms)) (hm' : S (m' :: ms'))
    (h : m.filePath ∉ c.files) (h' : m'.filePath ∉ c.files)
    (habove : m.filePath ∈ (c.openChain ms').files)
    (ih : (c.openChain (m :: ms)).openChain ms' = (c.openChain ms').openChain (m :: ms)) :
    (c.openChain (m :: ms)).openChain (m' :: ms') =
      (c.openChain (m' :: ms')).openChain (m :: ms) := by
  have hsuffix := suffix_of_mem_openChain hS hm (hS.above hm') h habove
  have hnot : m'.filePath ∉ (c.openChain (m :: ms)).files := by
    intro hmem
    have hle := (suffix_of_mem_openChain hS hm' hm h' hmem).length_le
    have hle' := hsuffix.length_le
    simp only [List.length_cons] at hle hle'
    omega
  have hmem : m.filePath ∈ (c.openChain (m' :: ms')).files := by
    rw [openChain_of_not_mem h', mem_addFile]
    exact .inr habove
  rw [openChain_of_mem hmem, openChain_of_not_mem hnot, ih, openChain_of_mem habove,
    openChain_of_not_mem h']

theorem openChain_comm {l l' : List Module} (hl : S l) (hl' : S l') (c : Crate) :
    (c.openChain l).openChain l' = (c.openChain l').openChain l := by
  induction hn : l.length + l'.length using Nat.strongRecOn generalizing l l' with
  | ind n ih =>
  cases l with
  | nil => rfl
  | cons m ms =>
  cases l' with
  | nil => rfl
  | cons m' ms' =>
  by_cases h : m.filePath ∈ c.files
  · rw [openChain_of_mem h, openChain_of_mem (mem_openChain_of_mem h _)]
  by_cases h' : m'.filePath ∈ c.files
  · rw [openChain_of_mem h', openChain_of_mem (mem_openChain_of_mem h' _)]
  by_cases hne : m.filePath = m'.filePath
  · rw [hS.same hl hl' hne]
  rw [List.length_cons, List.length_cons] at hn
  have hms := ih (ms.length + (ms'.length + 1)) (by omega) (hS.above hl) hl' rfl
  have hms' := ih (ms.length + 1 + ms'.length) (by omega) hl (hS.above hl') rfl
  have hboth := ih (ms.length + ms'.length) (by omega) (hS.above hl) (hS.above hl') rfl
  by_cases habove : m.filePath ∈ (c.openChain ms').files
  · exact openChain_absorb hS hl hl' h h' habove hms'
  by_cases habove' : m'.filePath ∈ (c.openChain ms).files
  · exact (openChain_absorb hS hl' hl h' h habove' hms.symm).symm
  -- Neither opens the other: both sides add the two files to what is opened above them.
  have hopen (habove : m.filePath ∉ (c.openChain ms').files) :
      m.filePath ∉ (c.openChain (m' :: ms')).files := by
    rw [openChain_of_not_mem h', mem_addFile, not_or]
    exact ⟨hne, habove⟩
  have hopen' (habove' : m'.filePath ∉ (c.openChain ms).files) :
      m'.filePath ∉ (c.openChain (m :: ms)).files := by
    rw [openChain_of_not_mem h, mem_addFile, not_or]
    exact ⟨fun heq => hne heq.symm, habove'⟩
  rw [openChain_of_not_mem (hopen habove), ← hms, openChain_of_not_mem habove',
    openChain_of_not_mem (hopen' habove'), hms', openChain_of_not_mem habove, hboth]
  have hnew : m.filePath ∉ ((c.openChain ms').openChain ms).files :=
    not_mem_openChain_above hS hl habove
  have hnew' : m'.filePath ∉ ((c.openChain ms').openChain ms).files := by
    rw [← hboth]
    exact not_mem_openChain_above hS hl' habove'
  refine addFile_comm hnew hnew' hne (fun hhost => habove' (mem_openChain_host hhost))
    (fun hhost => habove (mem_openChain_host hhost)) fun path hhost hhost' hname => ?_
  obtain ⟨parent, above, rfl, hpath⟩ := hostPath?_eq_some hhost
  obtain ⟨parent', above', rfl, hpath'⟩ := hostPath?_eq_some hhost'
  have heq := hS.same (hS.above hl) (hS.above hl') (hpath.trans hpath'.symm)
  rw [← heq] at hl'
  exact hne (congrArg Module.filePath (hS.siblings hl hl' hname))

end

end Crate

end CrateGen
