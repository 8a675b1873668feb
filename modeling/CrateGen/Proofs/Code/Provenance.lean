import CrateGen.Proofs.Code.Files

namespace CrateGen

open CrateGen.Action

namespace Dependencies

/-- Every inline item that is recorded was recorded before, or it is one of `P` under its key. -/
def Adds (P : InlineItem Code → Prop) (ds ds' : Dependencies) : Prop :=
  ∀ (k : String) (i : InlineItem Code), ds'.inline[k]? = some i →
    ds.inline[k]? = some i ∨ P i ∧ i.key = k

namespace Adds

variable {P : InlineItem Code → Prop} {ds ds' ds'' : Dependencies}

theorem refl (ds : Dependencies) : Adds P ds ds :=
  SortedMap.Adds.refl ds.inline

theorem trans (h : Adds P ds ds') (h' : Adds P ds' ds'') : Adds P ds ds'' :=
  SortedMap.Adds.trans h h'

theorem insert (ds : Dependencies) {d : Dependency Code} (hd : d.Permitted { item := P }) :
    Adds P ds (ds.insert d) := by
  cases d with
  | cargo d => exact refl ds
  | inline new => exact SortedMap.Adds.insertIfNew ds.inline ⟨hd, rfl⟩

theorem merge (ds : Dependencies) {new : Dependencies} (h : Adds P {} new) :
    Adds P ds (ds.merge new) :=
  SortedMap.Adds.merge ds.inline h

end Adds

end Dependencies

theorem Writer.adds_progress (P : InlineItem Code → Prop) :
    Writer.Progress { item := P }
      fun w w' => Dependencies.Adds P w.dependencies w'.dependencies where
  refl w := .refl w.dependencies
  trans h h' := h.trans h'
  emit w _ := .refl w.dependencies
  newline w := .refl w.dependencies
  level w _ := .refl w.dependencies
  scopes w _ := .refl w.dependencies
  issued w _ := .refl w.dependencies
  preamble w _ := .refl w.dependencies
  addUse w _ := .refl w.dependencies
  declare w _ _ := .refl w.dependencies
  depend w _ hd := .insert w.dependencies hd
  merge w _ _ _ h := .merge w.dependencies h
  mergeDependencies w _ _ _ h := .merge w.dependencies h

/-- What holds of every new writer, and of a writer with one more child module. -/
structure Writer.Inherent (Q : Writer → Prop) : Prop where
  newFile : ∀ (c : Crate) (m : Module), Q (c.newFile m)
  newInline : ∀ (c : Crate) (m : Module), Q (c.newInline m)
  declare : ∀ {w : Writer} (m : Module), Q w → Q (w.declare m)

namespace Crate

variable {c c' : Crate} {m : Module} {fuel : Nat} {code : Code} {Q : Writer → Prop}

/-- Codes are written into modules one after the other. -/
inductive Writings : Crate → List (Module × Code) → Crate → Prop
  | nil (c : Crate) : Writings c [] c
  | cons {c c' c'' : Crate} {m : Module} {code : Code} {fuel : Nat}
      {writes : List (Module × Code)} :
      outcome (write fuel m code) c = (.ok (), c') → Writings c' writes c'' →
        Writings c ((m, code) :: writes) c''

namespace Writings

variable {writes : List (Module × Code)}

theorem rest (h : c.Writings writes c') :
    ∃ files inlineModules, c' = { c with files, inlineModules } := by
  induction h with
  | nil c => exact ⟨c.files, c.inlineModules, rfl⟩
  | cons hw _ ih =>
    obtain ⟨_, _, rfl⟩ := (write_ok hw).rest
    obtain ⟨files, inlineModules, rfl⟩ := ih
    exact ⟨files, inlineModules, rfl⟩

theorem exists_write {m : Module} {code : Code} (h : c.Writings writes c')
    (hmem : (m, code) ∈ writes) :
    ∃ c₁ c₂ rest, Writes m code c₁ c₂ ∧ c₂.Writings rest c' := by
  induction h with
  | nil => cases hmem
  | cons hw hrest ih =>
    rcases List.mem_cons.mp hmem with heq | hmem
    · cases heq
      exact ⟨_, _, _, write_ok hw, hrest⟩
    · exact ih hmem

theorem writer_within (h : c.Writings writes c') {w : Writer} (hw : w ∈ c.writers) :
    ∃ w' ∈ c'.writers, w.dependencies.Within w'.dependencies := by
  induction h generalizing w with
  | nil => exact ⟨w, hw, .refl _⟩
  | cons hwrite _ ih =>
    obtain ⟨w₁, hw₁, hwithin⟩ := (write_ok hwrite).writer_within hw
    obtain ⟨w₂, hw₂, hrest⟩ := ih hw₁
    exact ⟨w₂, hw₂, hwithin.trans hrest⟩

end Writings

/-- Writes codes into modules, one after the other. -/
def writeEach (fuel : Nat) : List (Module × Code) → CrateM Unit
  | [] => pure ()
  | (m, code) :: rest => do
    write fuel m code
    writeEach fuel rest

/-- Writes codes into modules and finalizes the crate. -/
def session (fuel : Nat) (writes : List (Module × Code)) : CrateM Unit := do
  writeEach fuel writes
  finalize fuel

theorem writeEach_cons_ok {writes : List (Module × Code)} :
    outcome (writeEach fuel ((m, code) :: writes)) c = (.ok (), c') ↔
      ∃ c₁, outcome (write fuel m code) c = (.ok (), c₁) ∧
        outcome (writeEach fuel writes) c₁ = (.ok (), c') := by
  rw [writeEach, outcome_bind_eq_ok]
  exact ⟨fun ⟨_, c₁, hw, hrest⟩ => ⟨c₁, hw, hrest⟩, fun ⟨c₁, hw, hrest⟩ => ⟨(), c₁, hw, hrest⟩⟩

theorem writeEach_append_ok {writes writes' : List (Module × Code)} :
    outcome (writeEach fuel (writes ++ writes')) c = (.ok (), c') ↔
      ∃ c₁, outcome (writeEach fuel writes) c = (.ok (), c₁) ∧
        outcome (writeEach fuel writes') c₁ = (.ok (), c') := by
  induction writes generalizing c with
  | nil =>
    constructor
    · exact fun h => ⟨c, rfl, h⟩
    · rintro ⟨_, hnil, h⟩
      cases hnil
      exact h
  | cons write writes ih =>
    obtain ⟨m, code⟩ := write
    simp only [List.cons_append, writeEach_cons_ok, ih]
    constructor
    · rintro ⟨c₁, hw, c₂, hwrites, h⟩
      exact ⟨c₂, ⟨c₁, hw, hwrites⟩, h⟩
    · rintro ⟨c₂, ⟨c₁, hw, hwrites⟩, h⟩
      exact ⟨c₁, hw, c₂, hwrites, h⟩

theorem Writings.of_writeEach {writes : List (Module × Code)}
    (h : outcome (writeEach fuel writes) c = (.ok (), c')) : c.Writings writes c' := by
  induction writes generalizing c with
  | nil =>
    cases h
    exact .nil _
  | cons write writes ih =>
    obtain ⟨m, code⟩ := write
    obtain ⟨c₁, hw, hrest⟩ := writeEach_cons_ok.mp h
    exact .cons hw (ih hrest)

structure All (Q : Writer → Prop) (c : Crate) : Prop where
  files : ∀ {path : String} {w : Writer}, c.files[path]? = some w → Q w
  inlineModules : ∀ {path : String} {m : Module} {w : Writer},
    c.inlineModules[path]? = some (m, w) → Q w

namespace All

theorem new (showsBanner debugMode : Bool) : All Q { showsBanner, debugMode } where
  files hw := by
    rw [Std.ExtTreeMap.getElem?_empty] at hw
    cases hw
  inlineModules hw := by
    rw [Std.ExtTreeMap.getElem?_empty] at hw
    cases hw

theorem openChain (hQ : Writer.Inherent Q) (hc : c.All Q) (ms : List Module) :
    (c.openChain ms).All Q where
  files hw := openChain_files (P := fun _ w => Q w) hc.files (fun m _ => hQ.newFile c m)
    (fun m hw => hQ.declare m hw) ms hw
  inlineModules hw := by
    obtain ⟨files, hrest⟩ := (Opens.openChain c ms).rest
    rw [hrest] at hw
    exact hc.inlineModules hw

theorem insertFile (hc : c.All Q) (path : String) {w : Writer} (hw : Q w) :
    ({ c with files := c.files.insert path w } : Crate).All Q := by
  refine ⟨fun {path' w'} hw' => ?_, hc.inlineModules⟩
  rcases SortedMap.getElem?_insert_eq_some.mp hw' with ⟨-, rfl⟩ | ⟨-, hold⟩
  · exact hw
  · exact hc.files hold

theorem insertInline (hc : c.All Q) (path : String) (m : Module) {w : Writer} (hw : Q w) :
    ({ c with inlineModules := c.inlineModules.insert path (m, w) } : Crate).All Q := by
  refine ⟨hc.files, fun {path' m' w'} hw' => ?_⟩
  rcases SortedMap.getElem?_insert_eq_some.mp hw' with ⟨-, hnew⟩ | ⟨-, hold⟩
  · cases hnew
    exact hw
  · exact hc.inlineModules hold

theorem target (hQ : Writer.Inherent Q) (hc : c.All Q) (m : Module) : Q (c.target m) := by
  unfold Crate.target
  split
  · cases hm : c.inlineModules[m.fullPath]? with
    | none => exact hQ.newInline c m
    | some entry => exact hc.inlineModules hm
  · obtain ⟨w, hw⟩ := c.exists_openFile m
    rw [hw]
    exact (hc.openChain hQ _).files hw

theorem written (hQ : Writer.Inherent Q) (hc : c.All Q) (m : Module)
    (hrun : ∀ {w}, Q w → Q (outcome (code.run fuel) w).2) :
    All Q (outcome (write fuel m code) c).2 := by
  have htarget := hrun (hc.target hQ m)
  cases hm : m.isInline with
  | false =>
    rw [write_file fuel code c hm]
    exact (hc.openChain hQ _).insertFile _ htarget
  | true =>
    rcases write_inline_cases fuel code c hm with hok | ⟨e, herror⟩
    · rw [hok]
      exact ⟨(hc.openChain hQ _).files, (hc.insertInline _ _ htarget).inlineModules⟩
    · rw [herror]
      exact hc.openChain hQ _

theorem write (hQ : Writer.Inherent Q) (hc : c.All Q)
    (hrun : ∀ {w}, Q w → Q (outcome (code.run fuel) w).2)
    (h : outcome (write fuel m code) c = (.ok (), c')) : c'.All Q := by
  have hwritten := hc.written hQ m hrun
  rw [h] at hwritten
  exact hwritten

theorem writings {writes : List (Module × Code)} (h : c.Writings writes c')
    (hQ : Writer.Inherent Q) (hc : c.All Q)
    (hrun : ∀ write ∈ writes, ∀ (fuel : Nat) {w}, Q w → Q (outcome (write.2.run fuel) w).2) :
    c'.All Q := by
  induction h with
  | nil => exact hc
  | cons hw _ ih =>
    exact ih (hc.write hQ (hrun _ List.mem_cons_self _) hw)
      fun write hwrite => hrun write (List.mem_cons_of_mem _ hwrite)

end All

end Crate

/-- Nothing is bound, and every inline item that is recorded is one of `P` under its key. -/
def Writer.RefersTo (P : InlineItem Code → Prop) (w : Writer) : Prop :=
  w.scopes = [] ∧ Dependencies.Adds P {} w.dependencies

namespace Writer.RefersTo

variable {P : InlineItem Code → Prop}

theorem inherent (P : InlineItem Code → Prop) : Inherent (RefersTo P) where
  newFile _ _ := ⟨rfl, .refl _⟩
  newInline _ _ := ⟨rfl, .refl _⟩
  declare _ h := h

theorem run {w : Writer} (h : w.RefersTo P) {code : Code} (hcode : code.Permitted { item := P })
    (depth : Nat) : (outcome (code.run depth) w).2.RefersTo P := by
  obtain ⟨hscopes, hadds⟩ := h
  obtain ⟨hstep, hscopes'⟩ := Code.run_follows (Writer.adds_progress P) depth hcode w (by
    rw [hscopes]
    exact fun s hs => (List.not_mem_nil hs).elim)
  exact ⟨hscopes'.trans hscopes, hadds.trans hstep⟩

end Writer.RefersTo

theorem Crate.All.writers {c : Crate} {Q : Writer → Prop} (hc : c.All Q) {w : Writer}
    (hw : w ∈ c.writers) : Q w := by
  rcases Crate.mem_writers.mp hw with ⟨path, hfile⟩ | ⟨path, m, hinline⟩
  · exact hc.files hfile
  · exact hc.inlineModules hinline

theorem Writer.RefersTo.inline {P : InlineItem Code → Prop} {w : Writer} (h : w.RefersTo P)
    {key : String} {i : InlineItem Code} (hi : w.dependencies.inline[key]? = some i) :
    P i ∧ i.key = key := by
  rcases h.2 key i hi with hempty | hi
  · rw [Std.ExtTreeMap.getElem?_empty] at hempty
    cases hempty
  · exact hi

theorem Crate.All.items {c : Crate} {P : InlineItem Code → Prop} (hc : c.All (Writer.RefersTo P))
    {i : InlineItem Code} (hi : i ∈ c.items) : P i := by
  obtain ⟨w, hw, k, hk⟩ := Crate.mem_items.mp hi
  exact ((hc.writers hw).inline hk).1

/-- The piece is the directive that writes what a key stands for. -/
def Template.Piece.isDirective (key : String) : Piece → Bool
  | .directive key' (some 'T') => key' == key
  | _ => false

theorem Template.Piece.mem_of_any {key : String} {pieces : List Piece}
    (h : pieces.any (isDirective key) = true) : .directive key (some 'T') ∈ pieces := by
  obtain ⟨piece, hmem, hpiece⟩ := List.any_eq_true.mp h
  unfold isDirective at hpiece
  split at hpiece
  · rw [← eq_of_beq hpiece]
    exact hmem
  · cases hpiece

namespace Code

variable {depth : Nat} {w w' : Writer} {key : String} {t : RuntimeType Code} {i : InlineItem Code}

/-- `part` runs wherever the code does not fail. -/
inductive Has (part : Code) : Code → Prop
  | self : Has part part
  | first {first second : Code} : Has part first → Has part (.seq first second)
  | second {first second : Code} : Has part second → Has part (.seq first second)
  | block {header : String} {body : Code} : Has part body → Has part (.block header body)

theorem any_scopes (w : Writer) : ∀ s ∈ w.scopes, s.Permitted {} :=
  fun _ _ _ _ => argPermitted_any _

theorem splice_follows (depth : Nat) (c : Code) (hc : c.Permitted {}) :
    WriterM.Follows {} (fun w w' => w.dependencies.Within w'.dependencies) (run depth c) :=
  run_follows Writer.grows_progress depth hc

theorem grows_exec (depth : Nat) (c : Code) (w : Writer) :
    w.dependencies.Within (outcome (c.exec (run depth)) w).2.dependencies :=
  run_grows (depth + 1) c w

theorem Has.runs {part c : Code} (h : part.Has c)
    (hrun : outcome (c.exec (run depth)) w = (.ok (), w')) :
    ∃ v v', outcome (part.exec (run depth)) v = (.ok (), v') ∧
      v'.dependencies.Within w'.dependencies := by
  induction h generalizing w w' with
  | self => exact ⟨w, w', hrun, .refl _⟩
  | @first first second _ ih =>
    obtain ⟨_, w₁, hfirst, hsecond⟩ := outcome_bind_eq_ok.mp hrun
    obtain ⟨v, v', hv, hwithin⟩ := ih hfirst
    have hgrows := grows_exec depth second w₁
    rw [hsecond] at hgrows
    exact ⟨v, v', hv, hwithin.trans hgrows⟩
  | @second first second _ ih =>
    obtain ⟨_, w₁, hfirst, hsecond⟩ := outcome_bind_eq_ok.mp hrun
    exact ih hsecond
  | @block header body _ ih =>
    obtain ⟨_, w₁, hmark, hbody⟩ := outcome_bind_eq_ok.mp hrun
    unfold WriterM.within at hbody
    rw [outcome_between] at hbody
    obtain ⟨hok, rfl⟩ := Prod.mk.inj hbody
    obtain ⟨v, v', hv, hwithin⟩ := ih (Prod.ext hok rfl)
    have hclose := Writer.grows_progress.closeBlock
      (outcome (body.exec (run depth)) (w₁.openBlock
        (Text.trim (WriterM.blockHeader (Text.dedent header))))).2 (Text.trim r"}")
    exact ⟨v, v', hv, hwithin.trans hclose⟩

theorem renderDirective_records (depth : Nat) (hkey : Scope.lookup w.scopes key = some (.type t))
    (ht : t.dependency = some (.inline i)) :
    ∃ j, (outcome (renderDirective (run depth) key 'T') w).2.dependencies.inline[i.key]? =
      some j := by
  unfold renderDirective
  rw [outcome_bind_ok (outcome_get w), hkey]
  change ∃ j, ((w.dependencies.insertAll t.dependency.toList).inline)[i.key]? = some j
  rw [ht]
  change ∃ j, (w.dependencies.inline.insertIfNew i.key i)[i.key]? = some j
  exact SortedMap.mem_iff.mp Std.ExtTreeMap.mem_insertIfNew_self

theorem expand_records {out text : String} {pieces : List Template.Piece}
    (h : outcome (expand (run depth) out pieces) w = (.ok text, w'))
    (hpiece : .directive key (some 'T') ∈ pieces)
    (hkey : Scope.lookup w.scopes key = some (.type t)) (ht : t.dependency = some (.inline i)) :
    ∃ j, w'.dependencies.inline[i.key]? = some j := by
  induction pieces generalizing out w with
  | nil => cases hpiece
  | cons piece pieces ih =>
    cases piece with
    | char c =>
      rcases List.mem_cons.mp hpiece with he | hpiece
      · cases he
      · exact ih h hpiece hkey
    | sharp =>
      rcases List.mem_cons.mp hpiece with he | hpiece
      · cases he
      · exact ih h hpiece hkey
    | directive k kind =>
      obtain ⟨name, w₁, hname, hrest⟩ := outcome_bind_eq_ok.mp h
      have hscopes := (renderDirective_follows Writer.grows_progress (splice_follows depth) k
        (kind.getD 'T') w (any_scopes w)).2
      have hgrows := (expand_follows Writer.grows_progress (splice_follows depth)
        (out ++ Text.hang (Text.lastIndent out) name) pieces w₁ (any_scopes w₁)).1
      rw [hname] at hscopes
      rw [hrest] at hgrows
      rcases List.mem_cons.mp hpiece with he | hpiece
      · cases he
        obtain ⟨j, hj⟩ := renderDirective_records depth hkey ht
        rw [Option.getD_some] at hname
        rw [hname] at hj
        exact ⟨j, hgrows _ j hj⟩
      · exact ih hrest hpiece (by rw [hscopes]; exact hkey)

theorem template_records {text : String} {args : List (String × Arg Code)} {s : Scope}
    (h : outcome ((Code.template text args).exec (run depth)) w = (.ok (), w'))
    (hs : Scope.ofArgs args = .ok s) (hkey : s.get? key = some (.type t))
    (ht : t.dependency = some (.inline i))
    (hpiece : (Template.Form.canonical.pieces 0
      ((Template.Form.authored.pieces 0 (Text.dedent text).toList).flatMap
        Template.Piece.canonical)).any (Template.Piece.isDirective key) = true) :
    ∃ j, w'.dependencies.inline[i.key]? = some j := by
  obtain ⟨rendered, w₁, hscope, hline⟩ := outcome_bind_eq_ok.mp h
  unfold WriterM.inScope at hscope
  rw [hs, outcome_bind_ok (outcome_ofExcept_ok s w), outcome_between] at hscope
  obtain ⟨hok, rfl⟩ := Prod.mk.inj hscope
  have hrender : outcome (renderTemplate (run depth) text) (w.pushScope s) =
      (.ok rendered, (outcome (renderTemplate (run depth) text) (w.pushScope s)).2) :=
    Prod.ext hok rfl
  generalize (outcome (renderTemplate (run depth) text) (w.pushScope s)).2 = v at hrender hline
  unfold renderTemplate at hrender
  rw [outcome_bind_ok (outcome_get _)] at hrender
  dsimp only at hrender
  unfold Template.canonicalize at hrender
  dsimp only at hrender
  split at hrender
  · obtain ⟨_, _, hfail, -⟩ := outcome_bind_eq_ok.mp hrender
    cases hfail
  · rw [outcome_bind_ok (outcome_ofExcept_ok _ _)] at hrender
    have hlookup : Scope.lookup (w.pushScope s).scopes key = some (.type t) := by
      change Scope.lookup (s :: w.scopes) key = some (.type t)
      rw [Scope.lookup, List.findSome?_cons, hkey]
    obtain ⟨j, hj⟩ := expand_records hrender (Template.Piece.mem_of_any hpiece) hlookup ht
    rw [outcome_modify] at hline
    obtain ⟨-, rfl⟩ := Prod.mk.inj hline
    exact ⟨j, Writer.grows_progress.markedLine v.popScope rendered _ j hj⟩

end Code

end CrateGen
