import CrateGen.Proofs.Code.Lineage
import CrateGen.Proofs.Code.Plain
import CrateGen.Proofs.Code.Provenance

namespace CrateGen

open CrateGen.Action

/-- Where the writer of a module is found: at the path of a file, or at one of the generated
code. -/
def Module.address (m : Module) : String ⊕ String :=
  if m.isInline then .inr m.fullPath else .inl m.filePath

namespace Crate

variable {m m' : Module} {c c' c'' : Crate} {w : Writer} {x y : WriterM Unit}

/-! ## The writer of a module whose file is there -/

def onWriter (m : Module) (action : WriterM Unit) : CrateM Unit :=
  if m.isInline then do
    openInline m
    onInline m.fullPath action
  else onFile m.filePath action

theorem outcome_write (fuel : Nat) (m : Module) (code : Code) (c : Crate) :
    outcome (write fuel m code) c =
      outcome (onWriter m (code.run fuel)) (c.openFile m.fileOwner) := by
  unfold write onModule onWriter
  cases hm : m.isInline with
  | true => rfl
  | false =>
    rw [Module.fileOwner_of_file hm]
    rfl

/-- The writer of a module whose file is there, which is new if an inline module has none. -/
def slot (c : Crate) (m : Module) : Option Writer :=
  if m.isInline then
    match c.inlineModules[m.fullPath]? with
    | some entry => some entry.2
    | none => (c.newInline? m).toOption
  else c.files[m.filePath]?

def store (c : Crate) (m : Module) (w : Writer) : Crate :=
  if m.isInline then
    { c with inlineModules := c.inlineModules.insert m.fullPath ((c.inlineEntry m).1, w) }
  else { c with files := c.files.insert m.filePath w }

theorem slot_inline (hm : m.isInline = true) : c.slot m =
    match c.inlineModules[m.fullPath]? with
    | some entry => some entry.2
    | none => (c.newInline? m).toOption :=
  if_pos hm

theorem slot_file (hm : m.isInline = false) : c.slot m = c.files[m.filePath]? :=
  if_neg (Bool.not_eq_true _ ▸ hm)

theorem store_inline (hm : m.isInline = true) (w : Writer) : c.store m w =
    { c with inlineModules := c.inlineModules.insert m.fullPath ((c.inlineEntry m).1, w) } :=
  if_pos hm

theorem store_file (hm : m.isInline = false) (w : Writer) :
    c.store m w = { c with files := c.files.insert m.filePath w } :=
  if_neg (Bool.not_eq_true _ ▸ hm)

theorem openInline_eq_ok (hm : m.isInline = true) :
    outcome (openInline m) c = (.ok (), c') ↔ c.slot m = some (c.inlineEntry m).2 ∧
      c' = { c with inlineModules := c.inlineModules.insert m.fullPath (c.inlineEntry m) } := by
  constructor
  · intro h
    refine ⟨?_, openInline_eq h⟩
    unfold openInline at h
    rw [outcome_bind_ok (outcome_get c), Std.ExtTreeMap.contains_eq_isSome_getElem?] at h
    rw [slot_inline hm]
    unfold inlineEntry
    cases hc : c.inlineModules[m.fullPath]? with
    | some entry => rfl
    | none =>
      rw [hc] at h
      cases hnew : c.newInline? m with
      | error e =>
        rw [hnew] at h
        cases h
      | ok w =>
        rw [newInline?_eq hnew]
        rfl
  · rintro ⟨hslot, rfl⟩
    rcases openInline_cases c m with hok | ⟨e, he, herror⟩
    · exact hok
    · rw [slot_inline hm, he] at hslot
      cases hc : c.inlineModules[m.fullPath]? with
      | none =>
        rw [hc] at hslot
        cases hslot
      | some entry =>
        unfold openInline at herror
        rw [outcome_bind_ok (outcome_get c), Std.ExtTreeMap.contains_eq_isSome_getElem?, hc]
          at herror
        cases herror

theorem eq_inlineEntry_of_slot (hm : m.isInline = true) (h : c.slot m = some w) :
    w = (c.inlineEntry m).2 := by
  rw [slot_inline hm] at h
  unfold inlineEntry
  cases hc : c.inlineModules[m.fullPath]? with
  | some entry =>
    rw [hc] at h
    exact (Option.some.inj h).symm
  | none =>
    rw [hc] at h
    cases hnew : c.newInline? m with
    | error e =>
      rw [hnew] at h
      cases h
    | ok w' =>
      rw [hnew] at h
      rw [← newInline?_eq hnew]
      exact (Option.some.inj h).symm

/-- An action that does not fail replaces the writer, and nothing else. -/
theorem onWriter_eq_ok : outcome (onWriter m x) c = (.ok (), c') ↔
    ∃ w w', c.slot m = some w ∧ outcome x w = (.ok (), w') ∧ c' = c.store m w' := by
  unfold onWriter
  cases hm : m.isInline with
  | false =>
    rw [if_neg Bool.false_ne_true, slot_file hm]
    simp only [store_file hm]
    cases hw : c.files[m.filePath]? with
    | none =>
      rw [outcome_onFile_none _ _ hw]
      exact ⟨nofun, nofun⟩
    | some w =>
      rw [outcome_onFile _ _ hw, Prod.mk.injEq]
      constructor
      · rintro ⟨hok, rfl⟩
        exact ⟨w, _, rfl, Prod.ext hok rfl, rfl⟩
      · rintro ⟨_, w', hslot, hrun, rfl⟩
        cases hslot
        rw [hrun]
        exact ⟨rfl, rfl⟩
  | true =>
    rw [if_pos rfl]
    have hrun : outcome (onInline m.fullPath x)
        { c with inlineModules := c.inlineModules.insert m.fullPath (c.inlineEntry m) } =
        ((outcome x (c.inlineEntry m).2).1, c.store m (outcome x (c.inlineEntry m).2).2) := by
      rw [outcome_onInline _ _ Std.ExtTreeMap.getElem?_insert_self, SortedMap.insert_insert,
        store_inline hm]
      rfl
    constructor
    · intro h
      obtain ⟨_, c₁, hopen, hinline⟩ := outcome_bind_eq_ok.mp h
      obtain ⟨hslot, rfl⟩ := (openInline_eq_ok hm).mp hopen
      rw [hrun] at hinline
      obtain ⟨hok, rfl⟩ := Prod.mk.inj hinline
      exact ⟨_, _, hslot, Prod.ext hok rfl, rfl⟩
    · rintro ⟨w, w', hslot, hw, rfl⟩
      have heq := eq_inlineEntry_of_slot hm hslot
      subst heq
      rw [outcome_bind_ok ((openInline_eq_ok hm).mpr ⟨hslot, rfl⟩), hrun, hw]

theorem inlineEntry_insert (h : m'.fullPath ≠ m.fullPath) (entry : Module × Writer) :
    ({ c with inlineModules := c.inlineModules.insert m.fullPath entry } : Crate).inlineEntry m' =
      c.inlineEntry m' := by
  unfold inlineEntry
  rw [SortedMap.getElem?_insert_ne _ _ h]
  rfl

theorem slot_store (h : m.address ≠ m'.address) (w : Writer) :
    (c.store m w).slot m' = c.slot m' := by
  unfold Module.address at h
  cases hm : m.isInline with
  | false =>
    rw [hm] at h
    rw [store_file hm]
    cases hm' : m'.isInline with
    | false =>
      rw [hm'] at h
      rw [slot_file hm', slot_file hm']
      exact SortedMap.getElem?_insert_ne _ _ fun heq => h (congrArg Sum.inl heq.symm)
    | true =>
      rw [slot_inline hm', slot_inline hm']
      rfl
  | true =>
    rw [hm] at h
    rw [store_inline hm]
    cases hm' : m'.isInline with
    | false =>
      rw [slot_file hm', slot_file hm']
    | true =>
      rw [hm'] at h
      rw [slot_inline hm', slot_inline hm',
        SortedMap.getElem?_insert_ne _ _ fun heq => h (congrArg Sum.inr heq.symm)]
      rfl

theorem store_comm (h : m.address ≠ m'.address) (w w' : Writer) :
    (c.store m w).store m' w' = (c.store m' w').store m w := by
  unfold Module.address at h
  cases hm : m.isInline with
  | false =>
    rw [hm] at h
    rw [store_file hm, store_file hm]
    cases hm' : m'.isInline with
    | false =>
      rw [hm'] at h
      rw [store_file hm', store_file hm',
        SortedMap.insert_comm c.files _ _ fun heq => h (congrArg Sum.inl heq)]
    | true =>
      rw [store_inline hm', store_inline hm']
      rfl
  | true =>
    rw [hm] at h
    rw [store_inline hm, store_inline hm]
    cases hm' : m'.isInline with
    | false =>
      rw [store_file hm', store_file hm']
      rfl
    | true =>
      rw [hm'] at h
      have hpath : m.fullPath ≠ m'.fullPath := fun heq => h (congrArg Sum.inr heq)
      rw [store_inline hm', store_inline hm', inlineEntry_insert hpath.symm,
        inlineEntry_insert hpath, SortedMap.insert_comm c.inlineModules _ _ hpath]

theorem onWriter_comm (h : m.address ≠ m'.address)
    (hx : outcome (onWriter m x) c = (.ok (), c'))
    (hy : outcome (onWriter m' y) c' = (.ok (), c'')) :
    ∃ d, outcome (onWriter m' y) c = (.ok (), d) ∧ outcome (onWriter m x) d = (.ok (), c'') := by
  obtain ⟨w, w', hslot, hrun, rfl⟩ := onWriter_eq_ok.mp hx
  obtain ⟨v, v', hslot', hrun', rfl⟩ := onWriter_eq_ok.mp hy
  rw [slot_store h] at hslot'
  refine ⟨c.store m' v', onWriter_eq_ok.mpr ⟨v, v', hslot', hrun', rfl⟩,
    onWriter_eq_ok.mpr ⟨w, w', ?_, hrun, store_comm h w' v'⟩⟩
  rw [slot_store h.symm]
  exact hslot

/-! ## Opening files behind a writer -/

/-- Nothing is bound where code starts. -/
def Unbound (w : Writer) : Prop :=
  w.scopes = []

theorem unbound_inherent : Writer.Inherent Unbound where
  newFile _ _ := rfl
  newInline _ _ := rfl
  declare _ h := h

theorem unbound_run {w : Writer} (h : Unbound w) (code : Code) (depth : Nat) :
    Unbound (outcome (code.run depth) w).2 :=
  (Code.run_follows Writer.grows_progress depth code.permitted_any w
    fun _ _ _ _ => Code.argPermitted_any _).2.trans h

theorem All.slot {Q : Writer → Prop} (hQ : Writer.Inherent Q) (hc : c.All Q)
    (h : c.slot m = some w) : Q w := by
  cases hm : m.isInline with
  | false =>
    rw [slot_file hm] at h
    exact hc.files h
  | true =>
    rw [eq_inlineEntry_of_slot hm h, ← target_inline c hm]
    exact hc.target hQ m

theorem plain_of_slot (hc : c.All Unbound) (h : c.slot m = some w) : ∀ s ∈ w.scopes, s.Plain := by
  have hscopes : w.scopes = [] := hc.slot unbound_inherent h
  rw [hscopes]
  nofun

/-- A file is added alike whatever stands in another file, which gets a declaration at most. -/
theorem addFile_insert {path : String} {w' : Writer} {ms : List Module}
    (hw : c.files[path]? = some w) (hmodules : w'.modules = w.modules)
    (hm : m.filePath ∉ c.files) :
    ∃ modules, (c.addFile m ms).files[path]? = some (w.withModules modules) ∧
      ({ c with files := c.files.insert path w' } : Crate).addFile m ms =
        { c.addFile m ms with
          files := (c.addFile m ms).files.insert path (w'.withModules modules) } := by
  have hpath : path ≠ m.filePath := by
    rintro rfl
    exact hm (SortedMap.mem_iff.mpr ⟨w, hw⟩)
  have hm' : m.filePath ∉ (c.files.insert path w') := by
    rw [Std.ExtTreeMap.mem_insert, not_or]
    exact ⟨fun heq => hpath (Std.compare_eq_iff_eq.mp heq), hm⟩
  have hself : ∃ modules, (c.addFile m ms).files[path]? = some (w.withModules modules) ∧
      (if hostPath? ms = some path then w'.declare m else w') = w'.withModules modules := by
    rw [getElem?_addFile hm, if_neg hpath, hw]
    split
    · refine ⟨(w.declare m).modules, rfl, ?_⟩
      unfold Writer.declare Writer.withModules
      rw [hmodules]
    · refine ⟨w.modules, rfl, ?_⟩
      rw [← hmodules]
      rfl
  obtain ⟨modules, hold, hnew⟩ := hself
  refine ⟨modules, hold, ?_⟩
  rw [addFile_rest, addFile_rest c]
  congr 1
  apply Std.ExtTreeMap.ext_getElem?
  intro path'
  rw [getElem?_addFile hm']
  by_cases heq : path' = path
  · subst heq
    rw [if_neg hpath, Std.ExtTreeMap.getElem?_insert_self, Std.ExtTreeMap.getElem?_insert_self,
      ← hnew]
    split <;> rfl
  · rw [SortedMap.getElem?_insert_ne _ _ heq, SortedMap.getElem?_insert_ne _ _ heq,
      getElem?_addFile hm]
    rfl

theorem openChain_insert {S : List Module → Prop} (hS : Module.Lineage S) {path : String}
    {w' : Writer} (hw : c.files[path]? = some w) (hmodules : w'.modules = w.modules)
    {ms : List Module} (hms : S ms) :
    ∃ modules, (c.openChain ms).files[path]? = some (w.withModules modules) ∧
      ({ c with files := c.files.insert path w' } : Crate).openChain ms =
        { c.openChain ms with
          files := (c.openChain ms).files.insert path (w'.withModules modules) } := by
  induction ms with
  | nil =>
    refine ⟨w.modules, hw, ?_⟩
    rw [← hmodules]
    rfl
  | cons m ms ih =>
    have hmem : m.filePath ∈ c.files.insert path w' ↔ m.filePath ∈ c.files := by
      rw [Std.ExtTreeMap.mem_insert, or_iff_right_of_imp]
      intro heq
      rw [← Std.compare_eq_iff_eq.mp heq]
      exact SortedMap.mem_iff.mpr ⟨w, hw⟩
    by_cases hm : m.filePath ∈ c.files
    · rw [openChain_of_mem hm, openChain_of_mem (hmem.mpr hm)]
      refine ⟨w.modules, hw, ?_⟩
      rw [← hmodules]
      rfl
    · obtain ⟨modules, hopen, hinsert⟩ := ih (hS.above hms)
      rw [openChain_of_not_mem hm, openChain_of_not_mem (mt hmem.mp hm), hinsert]
      have hsame : (w'.withModules modules).modules = (w.withModules modules).modules := rfl
      obtain ⟨modules', hadd, hadd'⟩ := addFile_insert hopen hsame
        (not_mem_openChain_above hS hms hm)
      exact ⟨modules', hadd, hadd'⟩

theorem openChain_inlineModules (c : Crate) (inlineModules : Inlines) (ms : List Module) :
    ({ c with inlineModules } : Crate).openChain ms = { c.openChain ms with inlineModules } := by
  induction ms with
  | nil => rfl
  | cons m ms ih =>
    by_cases hm : m.filePath ∈ c.files
    · rw [openChain_of_mem hm]
      exact openChain_of_mem hm
    · rw [openChain_of_not_mem hm]
      refine (openChain_of_not_mem (c := { c with inlineModules }) hm).trans ?_
      rw [ih]
      cases ms <;> rfl

section

variable {S : List Module → Prop} (hS : Module.Lineage S) {ms : List Module} (hms : S ms)
include hS hms

/-- A writer gets declarations at most when files are opened, and if it is another one that keeps
the declarations, that one gets them as well. -/
theorem slot_openChain (hw : c.slot m = some w) :
    ∃ modules, (c.openChain ms).slot m = some (w.withModules modules) ∧
      ∀ w', w'.modules = w.modules →
        (c.store m w').openChain ms = (c.openChain ms).store m (w'.withModules modules) := by
  cases hm : m.isInline with
  | false =>
    rw [slot_file hm] at hw
    obtain ⟨modules, hopen, -⟩ := openChain_insert hS hw rfl hms
    refine ⟨modules, (slot_file hm).trans hopen, fun w' hmodules => ?_⟩
    obtain ⟨modules', hopen', hinsert⟩ := openChain_insert hS hw hmodules hms
    have heq : modules' = modules := by
      rw [hopen] at hopen'
      exact congrArg Writer.modules (Option.some.inj hopen').symm
    rw [store_file hm, store_file hm, hinsert, heq]
  | true =>
    obtain ⟨files, hrest⟩ := (Opens.openChain c ms).rest
    refine ⟨w.modules, ?_, fun w' hmodules => ?_⟩
    · rw [hrest, slot_inline hm]
      rw [slot_inline hm] at hw
      exact hw
    · rw [store_inline hm, store_inline hm, openChain_inlineModules, ← hmodules, hrest]
      rfl

omit hS hms in
theorem slot_of_slot_openChain (hm : m.isInline = true ∨ m.filePath ∈ c.files) {w' : Writer}
    (hw : (c.openChain ms).slot m = some w') : ∃ w, c.slot m = some w := by
  rcases hm with hm | hm
  · obtain ⟨files, hrest⟩ := (Opens.openChain c ms).rest
    rw [hrest, slot_inline hm] at hw
    exact ⟨w', (slot_inline hm).trans hw⟩
  · cases hin : m.isInline with
    | true =>
      obtain ⟨files, hrest⟩ := (Opens.openChain c ms).rest
      rw [hrest, slot_inline hin] at hw
      exact ⟨w', (slot_inline hin).trans hw⟩
    | false =>
      rw [slot_file hin]
      exact SortedMap.mem_iff.mp hm

variable (hc : c.All Unbound) (hx : WriterM.IgnoresModules x)
include hc hx

/-- Where an action that ignores child modules ends on a writer, it ends on the writer with files
opened, and the files can as well be opened behind it. -/
theorem onWriter_openChain (h : outcome (onWriter m x) c = (.ok (), c')) :
    outcome (onWriter m x) (c.openChain ms) = (.ok (), c'.openChain ms) := by
  obtain ⟨w, w', hslot, hrun, rfl⟩ := onWriter_eq_ok.mp h
  have hscopes := plain_of_slot hc hslot
  obtain ⟨modules, hopen, hstore⟩ := slot_openChain hS hms hslot
  have hmodules := hx.modules_eq hscopes
  have hrun' := (hx w hscopes).1 modules
  rw [hrun] at hmodules hrun'
  exact onWriter_eq_ok.mpr ⟨_, _, hopen, hrun', hstore w' hmodules⟩

theorem exists_onWriter (hm : m.isInline = true ∨ m.filePath ∈ c.files)
    (h : outcome (onWriter m x) (c.openChain ms) = (.ok (), c'')) :
    ∃ c', outcome (onWriter m x) c = (.ok (), c') := by
  obtain ⟨v, v', hopen, hrun, rfl⟩ := onWriter_eq_ok.mp h
  obtain ⟨w, hslot⟩ := slot_of_slot_openChain hm hopen
  have hscopes := plain_of_slot hc hslot
  obtain ⟨modules, hopen', -⟩ := slot_openChain hS hms hslot
  rw [hopen] at hopen'
  rw [Option.some.inj hopen', (hx w hscopes).1 modules] at hrun
  exact ⟨_, onWriter_eq_ok.mpr ⟨w, _, hslot, Prod.ext (Prod.mk.inj hrun).1 rfl, rfl⟩⟩

end

/-! ## The order of writes -/

theorem write_comm {a b : Module × Code} (hmodules : Module.Separate [a.1, b.1])
    (ha : a.2.Plain) (hb : b.2.Plain) (haddress : a.1.address ≠ b.1.address) {fuel : Nat}
    (hc : c.All Unbound) (h : outcome (write fuel a.1 a.2) c = (.ok (), c'))
    (h' : outcome (write fuel b.1 b.2) c' = (.ok (), c'')) :
    ∃ d, outcome (write fuel b.1 b.2) c = (.ok (), d) ∧
      outcome (write fuel a.1 a.2) d = (.ok (), c'') := by
  have hS := hmodules.lineage
  have hchain {m : Module} (hm : m ∈ [a.1, b.1]) : m.fileOwner.fileChain = [] ∨
      ∃ m' ∈ Module.closure [a.1, b.1], m'.fileOwner = m' ∧
        m.fileOwner.fileChain = m'.fileChain :=
    .inr ⟨_, Module.fileOwner_mem_closure (Module.mem_closure_self hm),
      Module.fileOwner_fileOwner m, rfl⟩
  have hcomm := openChain_comm hS (hchain List.mem_cons_self)
    (hchain (List.mem_cons_of_mem _ List.mem_cons_self)) c
  have hopened {m : Module} (c : Crate) :
      m.isInline = true ∨ m.filePath ∈ (c.openFile m.fileOwner).files := by
    cases hm : m.isInline with
    | true => exact .inl rfl
    | false =>
      rw [Module.fileOwner_of_file hm]
      exact .inr (SortedMap.mem_iff.mpr (c.exists_openFile m))
  rw [outcome_write] at h h'
  have hfirst := onWriter_openChain hS (hchain (List.mem_cons_of_mem _ List.mem_cons_self))
    (hc.openChain unbound_inherent _) (Code.run_ignoresModules fuel ha) h
  obtain ⟨d, hsecond, hlast⟩ := onWriter_comm haddress hfirst h'
  -- With all files there, both orders meet; it is left to open the files of `a` last.
  change outcome _ ((c.openChain a.1.fileOwner.fileChain).openChain _) = _ at hsecond
  rw [hcomm] at hsecond
  obtain ⟨d', hd⟩ := exists_onWriter hS (hchain List.mem_cons_self)
    (hc.openChain unbound_inherent _) (Code.run_ignoresModules fuel hb) (hopened c) hsecond
  have hd' := onWriter_openChain hS (hchain List.mem_cons_self)
    (hc.openChain unbound_inherent _) (Code.run_ignoresModules fuel hb) hd
  rw [hsecond] at hd'
  refine ⟨d', (outcome_write fuel b.1 b.2 c).trans hd, ?_⟩
  rw [outcome_write]
  have heq : d = d'.openFile a.1.fileOwner := (Prod.mk.inj hd').2
  rw [← heq]
  exact hlast

theorem writeEach_swap {before after : List (Module × Code)} {a b : Module × Code}
    (hmodules : Module.Separate [a.1, b.1]) (ha : a.2.Plain) (hb : b.2.Plain)
    (haddress : a.1.address ≠ b.1.address) {fuel : Nat} (hc : c.All Unbound)
    (h : outcome (writeEach fuel (before ++ a :: b :: after)) c = (.ok (), c')) :
    outcome (writeEach fuel (before ++ b :: a :: after)) c = (.ok (), c') := by
  obtain ⟨c₁, hbefore, h⟩ := writeEach_append_ok.mp h
  obtain ⟨c₂, hfirst, h⟩ := writeEach_cons_ok.mp h
  obtain ⟨c₃, hsecond, hafter⟩ := writeEach_cons_ok.mp h
  have hunbound : c₁.All Unbound :=
    All.writings (.of_writeEach hbefore) unbound_inherent hc
      fun write _ depth _ hw => unbound_run hw write.2 depth
  obtain ⟨d, hsecond', hfirst'⟩ :=
    write_comm hmodules ha hb haddress hunbound hfirst hsecond
  exact writeEach_append_ok.mpr
    ⟨c₁, hbefore, writeEach_cons_ok.mpr ⟨d, hsecond', writeEach_cons_ok.mpr ⟨c₃, hfirst', hafter⟩⟩⟩

/-- The order of two writes to different modules changes neither how finalizing ends nor the crate
that it leaves, and so neither what is rendered nor the packages. -/
theorem session_swap {showsBanner debugMode : Bool} {fuel : Nat}
    {before after : List (Module × Code)} {a b : Module × Code}
    (hmodules : Module.Separate [a.1, b.1]) (ha : a.2.Plain) (hb : b.2.Plain)
    (haddress : a.1.address ≠ b.1.address)
    (hok : (outcome (writeEach fuel (before ++ a :: b :: after)) { showsBanner, debugMode }).1 =
      .ok ()) :
    outcome (session fuel (before ++ b :: a :: after)) { showsBanner, debugMode } =
      outcome (session fuel (before ++ a :: b :: after)) { showsBanner, debugMode } := by
  cases h : outcome (writeEach fuel (before ++ a :: b :: after)) { showsBanner, debugMode } with
  | mk r c =>
    rw [h] at hok
    have hr : r = .ok () := hok
    subst hr
    have hswap := writeEach_swap hmodules ha hb haddress (.new showsBanner debugMode) h
    unfold session
    rw [outcome_bind_ok h, outcome_bind_ok hswap]

/-- The root, in which a module is declared by a write to that module. -/
theorem session_swap_root :
    let a := (Module.root, Code.line "pub struct Root;")
    let b := (Module.named "helpers" .inCrate, Code.line "pub struct Helper;")
    Module.Separate [a.1, b.1] ∧ a.2.Plain ∧ b.2.Plain ∧ a.1.address ≠ b.1.address ∧
      (outcome (writeEach 1 [a, b]) {}).1 = .ok () ∧
      outcome (session 1 [b, a]) {} = outcome (session 1 [a, b]) {} := by
  have hmodules : Module.Separate [.root, .named "helpers" .inCrate] := by decide +kernel
  have haddress : Module.root.address ≠ (Module.named "helpers" .inCrate).address := by decide
  have hok : (outcome (writeEach 1 [(Module.root, Code.line "pub struct Root;"),
      (Module.named "helpers" .inCrate, Code.line "pub struct Helper;")]) {}).1 = .ok () := rfl
  exact ⟨hmodules, trivial, trivial, haddress, hok,
    @session_swap false false 1 [] [] _ _ hmodules trivial trivial haddress hok⟩

end Crate

end CrateGen
