import CrateGen.Proofs.Code.Layout

namespace CrateGen

open CrateGen.Action
open CrateGen.Module (closure Tree)

/-- Every declaration was there before, or it is the one of a module in `P`. -/
def Writer.Declares (P : Module → Prop) (w w' : Writer) : Prop :=
  SortedMap.Adds (fun name text => ∃ m, P m ∧ m.name = name ∧ m.documentedDeclaration = text)
    w.modules w'.modules

theorem Writer.declares_progress (P : Module → Prop) : Progress { child := P } (Declares P) where
  refl w := .refl w.modules
  trans h h' := h.trans h'
  emit w _ := .refl w.modules
  newline w := .refl w.modules
  level w _ := .refl w.modules
  scopes w _ := .refl w.modules
  issued w _ := .refl w.modules
  preamble w _ := .refl w.modules
  addUse w _ := .refl w.modules
  declare w m hm := .insert w.modules ⟨m, hm, rfl, rfl⟩
  depend w _ _ := .refl w.modules
  merge w _ _ _ h := .merge w.modules h
  mergeDependencies w _ _ _ _ := .refl w.modules

/-- Nothing is bound, and every declaration is the one of a module in `P`. -/
structure Writer.DeclaresOnly (P : Module → Prop) (w : Writer) : Prop where
  scopes : w.scopes = []
  declared : ∀ {name text : String}, w.modules[name]? = some text →
    ∃ m, P m ∧ m.name = name ∧ m.documentedDeclaration = text

namespace Writer.DeclaresOnly

variable {P Q : Module → Prop} {w : Writer} {m : Module}

theorem of_empty (hscopes : w.scopes = []) (hmodules : w.modules = ∅) : w.DeclaresOnly P := by
  refine ⟨hscopes, fun {name text} hd => ?_⟩
  rw [hmodules, Std.ExtTreeMap.getElem?_empty] at hd
  cases hd

theorem of_declares {w' : Writer} (h : w.DeclaresOnly Q) (hPQ : ∀ m, P m → Q m)
    (hscopes : w'.scopes = w.scopes) (hd : w.Declares P w') : w'.DeclaresOnly Q := by
  refine ⟨hscopes.trans h.scopes, fun htext => ?_⟩
  rcases hd _ _ htext with hold | ⟨m, hm, hdeclaration⟩
  · exact h.declared hold
  · exact ⟨m, hPQ m hm, hdeclaration⟩

theorem declare (h : w.DeclaresOnly P) (hm : P m) : (w.declare m).DeclaresOnly P :=
  h.of_declares (fun _ => id) rfl ((declares_progress P).declare w m hm)

theorem run (h : w.DeclaresOnly Q) {code : Code} (hcode : code.Permitted { child := P })
    (hPQ : ∀ m, P m → Q m) (depth : Nat) : (outcome (code.run depth) w).2.DeclaresOnly Q := by
  obtain ⟨hd, hscopes⟩ := Code.run_follows (declares_progress P) depth hcode w (by
    rw [h.scopes]
    exact fun s hs => (List.not_mem_nil hs).elim)
  exact h.of_declares hPQ hscopes hd

end Writer.DeclaresOnly

namespace Module

/-- Code may declare it: the modules of the family with its name are file modules with the same
declaration, and not below inline modules. -/
def Declarable (ms : List Module) (d : Module) : Prop :=
  ∀ m ∈ closure ms, m.name = d.name →
    m.isInline = false ∧ m.documentedDeclaration = d.documentedDeclaration ∧
      ∀ parent ∈ m.parent?, parent.isInline = false

/-- A file module of the family that is declared in a file: the one that holds its parent. -/
def DeclaredIn (ms : List Module) (path : String) (m : Module) : Prop :=
  m ∈ closure ms ∧ m.isInline = false ∧ ∃ parent, m.parent? = some parent ∧ parent.filePath = path

end Module

open CrateGen.Module (Declarable DeclaredIn)

namespace Crate

variable {c c' : Crate} {ms : List Module} {m parent : Module} {path : String}

/-- The file with a path declares a module. -/
def DeclaresChild (c : Crate) (path : String) (m : Module) : Prop :=
  ∃ w, c.files[path]? = some w ∧ m.name ∈ w.modules

/-- Every file module of the family that has its file is declared in the file that holds its parent,
and nothing else is declared but what code may declare. -/
structure Declared (ms : List Module) (c : Crate) : Prop where
  file : ∀ {path : String} {w : Writer}, c.files[path]? = some w →
    w.DeclaresOnly fun d => Declarable ms d ∨ DeclaredIn ms path d
  inline : ∀ {path : String} {m : Module} {w : Writer}, c.inlineModules[path]? = some (m, w) →
    w.DeclaresOnly (Declarable ms)
  child : ∀ {m parent : Module}, m ∈ closure ms → m.isInline = false → m.parent? = some parent →
    m.filePath ∈ c.files → c.DeclaresChild parent.filePath m

/-- The file of a module below another one is opened behind the file that holds its parent, where
it is declared. -/
theorem openFile_of_parent (hp : m.parent? = some parent) (hm : m.filePath ∉ c.files) :
    c.openFile m =
      let c₁ := (c.openFile parent.fileOwner).modifyFile parent.filePath (·.declare m)
      { c₁ with files := c₁.files.insertIfNew m.filePath (c₁.newFile m) } := by
  obtain ⟨above, habove⟩ : ∃ above, parent.fileOwner.fileChain = parent.fileOwner :: above :=
    ⟨_, rfl⟩
  unfold openFile
  rw [Module.fileChain_of_parent hp, habove, openChain.eq_def c (m :: _)]
  dsimp only
  rw [if_neg (by rw [Std.ExtTreeMap.contains_iff_mem]; exact hm), Module.filePath_fileOwner]

namespace Declared

theorem new (showsBanner debugMode : Bool) : Declared ms { showsBanner, debugMode } where
  file hw := by
    rw [Std.ExtTreeMap.getElem?_empty] at hw
    cases hw
  inline hw := by
    rw [Std.ExtTreeMap.getElem?_empty] at hw
    cases hw
  child _ _ _ hfile := absurd hfile Std.ExtTreeMap.not_mem_empty

theorem marked (h : c.Declared ms) (i : InlineItem Code) : (c.marked i).Declared ms :=
  ⟨h.file, h.inline, h.child⟩

theorem target (h : c.Declared ms) (hin : m.isInline = true) :
    (c.target m).DeclaresOnly (Declarable ms) := by
  unfold Crate.target
  rw [hin, if_pos rfl]
  cases hentry : c.inlineModules[m.fullPath]? with
  | some entry => exact h.inline hentry
  | none => exact .of_empty rfl rfl

theorem modifyFile (h : c.Declared ms) (hm : DeclaredIn ms path m) :
    (c.modifyFile path (·.declare m)).Declared ms := by
  constructor
  · intro path' w hw
    rw [getElem?_modifyFile] at hw
    split at hw
    · next hpath =>
      obtain ⟨w', hw', rfl⟩ := Option.map_eq_some_iff.mp hw
      subst hpath
      exact (h.file hw').declare (.inr hm)
    · exact h.file hw
  · exact h.inline
  · intro m' parent hm' hin hp hfile
    obtain ⟨w, hw, hname⟩ := h.child hm' hin hp (Std.ExtTreeMap.mem_modify.mp hfile)
    unfold DeclaresChild
    rw [getElem?_modifyFile, hw]
    split
    · exact ⟨_, rfl, Std.ExtTreeMap.mem_insert.mpr (.inr hname)⟩
    · exact ⟨w, rfl, hname⟩

section

variable (hms : Tree ms) (hlib : ∀ m ∈ closure ms, m.isInline = false → m.segments ≠ ["lib"])
include hms hlib

theorem newFile (h : c.Declared ms) (hm : m ∈ closure ms) (hin : m.isInline = false)
    (hp : ∀ parent, m.parent? = some parent → c.DeclaresChild parent.filePath m) :
    Declared ms { c with files := c.files.insertIfNew m.filePath (c.newFile m) } := by
  constructor
  · intro path w hw
    rw [Std.ExtTreeMap.getElem?_insertIfNew] at hw
    split at hw
    · cases hw
      exact .of_empty rfl rfl
    · exact h.file hw
  · exact h.inline
  · intro m' parent hm' hin' hp' hfile
    have hchild : c.DeclaresChild parent.filePath m' := by
      -- no other file module of the family has the path
      rcases Std.ExtTreeMap.mem_insertIfNew.mp hfile with hpath | hold
      · have heq := hms.filePath_injective hlib hm hm' hin hin' (Std.compare_eq_iff_eq.mp hpath)
        subst heq
        exact hp parent hp'
      · exact h.child hm' hin' hp' hold
    obtain ⟨w, hw, hname⟩ := hchild
    exact ⟨w, SortedMap.getElem?_insertIfNew_of_some hw _ _, hname⟩

/-- Opening the file that holds a module declares whatever is on the way up. -/
theorem openFile (h : c.Declared ms) (hm : m ∈ closure ms) :
    (c.openFile m.fileOwner).Declared ms := by
  induction m with
  | top info =>
    have htop := hms.top _ hm rfl
    rw [Module.fileOwner_of_file htop]
    unfold Crate.openFile Module.fileChain openChain
    split
    · exact h
    · refine h.newFile hms hlib hm htop fun parent hp => ?_
      cases hp
  | child parent info ih =>
    have hparent := ih (Module.parent_mem_closure hm rfl)
    cases hin : info.inline with
    | true =>
      rw [Module.fileOwner_of_inline (m := .child parent info) hin rfl]
      exact hparent
    | false =>
      rw [Module.fileOwner_of_file (m := .child parent info) hin]
      by_cases hfile : (Module.child parent info).filePath ∈ c.files
      · obtain ⟨w, hw⟩ := SortedMap.mem_iff.mp hfile
        rw [openFile_of_mem hw]
        exact h
      · rw [openFile_of_parent rfl hfile]
        refine (hparent.modifyFile ⟨hm, hin, parent, rfl, rfl⟩).newFile hms hlib hm hin ?_
        rintro _ ⟨⟩
        obtain ⟨w, hw⟩ := c.exists_openFile parent.fileOwner
        rw [Module.filePath_fileOwner] at hw
        refine ⟨w.declare (.child parent info), ?_, Std.ExtTreeMap.mem_insert_self⟩
        rw [getElem?_modifyFile, if_pos rfl, hw]
        rfl

theorem write_file (h : c.Declared ms) {fuel : Nat} {code : Code} (hm : m ∈ closure ms)
    (hin : m.isInline = false) (hcode : code.Permitted { child := Declarable ms })
    (hw : outcome (write fuel m code) c = (.ok (), c')) : c'.Declared ms := by
  obtain ⟨w, hrun, rfl⟩ := write_file_ok hin hw
  have hopen := h.openFile hms hlib hm
  rw [Module.fileOwner_of_file hin] at hopen
  have htarget := c.openFile_target hin
  have hextends := Code.run_progress Writer.extends_progress fuel code (c.target m)
  rw [hrun] at hextends
  constructor
  · intro path w' hw'
    rcases SortedMap.getElem?_insert_eq_some.mp hw' with ⟨rfl, rfl⟩ | ⟨-, hold⟩
    · have hdeclares := (hopen.file htarget).run hcode (fun _ => .inl) fuel
      rw [hrun] at hdeclares
      exact hdeclares
    · exact hopen.file hold
  · exact hopen.inline
  · intro m' parent hm' hin' hp hfile
    have hold : m'.filePath ∈ (c.openFile m).files := by
      rcases SortedMap.mem_insert.mp hfile with hpath | hold
      · exact hpath ▸ SortedMap.mem_iff.mpr ⟨_, htarget⟩
      · exact hold
    obtain ⟨w', hw', hname⟩ := hopen.child hm' hin' hp hold
    unfold DeclaresChild
    rw [Std.ExtTreeMap.getElem?_insert]
    -- where the parent is in the file that is written to, the code keeps what is declared
    split
    · next hpath =>
      rw [← Std.compare_eq_iff_eq.mp hpath, htarget] at hw'
      cases hw'
      exact ⟨w, rfl, hextends.modules _ hname⟩
    · exact ⟨w', hw', hname⟩

theorem write_inline (h : c.Declared ms) {fuel : Nat} {code : Code} (hm : m ∈ closure ms)
    (hin : m.isInline = true) (hcode : code.Permitted { child := Declarable ms })
    (hw : outcome (write fuel m code) c = (.ok (), c')) : c'.Declared ms := by
  obtain ⟨w, hrun, rfl⟩ := write_inline_ok hin hw
  have hopen := h.openFile hms hlib hm
  refine ⟨hopen.file, ?_, hopen.child⟩
  intro path m' w' hw'
  rcases SortedMap.getElem?_insert_eq_some.mp hw' with ⟨-, hnew⟩ | ⟨-, hold⟩
  · cases hnew
    have hdeclares := (h.target hin).run hcode (fun _ => id) fuel
    rw [hrun] at hdeclares
    exact hdeclares
  · exact h.inline hold

theorem write (h : c.Declared ms) {fuel : Nat} {code : Code} (hm : m ∈ closure ms)
    (hcode : code.Permitted { child := Declarable ms })
    (hw : outcome (write fuel m code) c = (.ok (), c')) : c'.Declared ms := by
  cases hin : m.isInline with
  | false => exact h.write_file hms hlib hm hin hcode hw
  | true => exact h.write_inline hms hlib hm hin hcode hw

theorem writings {writes : List (Module × Code)} (h : c.Declared ms)
    (hw : c.Writings writes c')
    (hwrites : ∀ write ∈ writes, write.1 ∈ ms ∧ write.2.Permitted { child := Declarable ms }) :
    c'.Declared ms := by
  induction hw with
  | nil => exact h
  | cons hwrite _ ih =>
    obtain ⟨hm, hcode⟩ := hwrites _ List.mem_cons_self
    exact ih (h.write hms hlib (Module.mem_closure_self hm) hcode hwrite)
      fun write hmem => hwrites write (List.mem_cons_of_mem _ hmem)

theorem steps {steps : List Step} (h : c.Declared ms) (hs : Steps c steps c')
    (hsteps : ∀ s ∈ steps, s.call.1 ∈ ms ∧ s.call.2.Permitted { child := Declarable ms }) :
    c'.Declared ms := by
  induction hs with
  | nil => exact h
  | @cons c c₁ c' i steps hr _ ih =>
    obtain ⟨fuel, hwrite⟩ := hr
    obtain ⟨hm, hcode⟩ := hsteps _ List.mem_cons_self
    exact ih ((h.marked i).write hms hlib (Module.mem_closure_self hm) hcode hwrite)
      fun s hmem => hsteps s (List.mem_cons_of_mem _ hmem)

end

end Declared

end Crate

end CrateGen
