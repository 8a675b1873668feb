import CrateGen.Proofs.Code.Ledger
import CrateGen.Proofs.Code.Rendering

namespace CrateGen

open CrateGen.Action

/-- What a writer keeps next to its text. Inline items and child modules go by their names. -/
inductive Recording where
  | package (d : CargoDependency)
  | item (key : String)
  | path (path : String)
  | child (name : String)
  | preamble (text : String)

namespace Recording

def ofDependency : Dependency Code → Recording
  | .cargo d => .package d
  | .inline i => .item i.key

/-- A writer takes it over from its fragments. -/
def Merged : Recording → Prop
  | .package _ | .item _ | .path _ | .child _ => True
  | .preamble _ => False

/-- A writer takes it over from the inline modules that it writes. -/
def IsDependency : Recording → Prop
  | .package _ | .item _ => True
  | .path _ | .child _ | .preamble _ => False

end Recording

namespace Writer

def Holds (w : Writer) : Recording → Prop
  | .package d => d ∈ w.dependencies.cargo
  | .item key => key ∈ w.dependencies.inline
  | .path path => path ∈ w.uses
  | .child name => name ∈ w.modules
  | .preamble text => text ∈ w.preamble

variable {r : Recording} {g : Writer → Writer} (w : Writer)

theorem fragment_holds (ns : String) : ¬(w.fragment ns).Holds r := by
  cases r with
  | package d => exact Std.ExtTreeSet.not_mem_empty
  | item key => exact Std.ExtTreeMap.not_mem_empty
  | path path => exact Std.ExtTreeSet.not_mem_empty
  | child name => exact Std.ExtTreeMap.not_mem_empty
  | preamble text => exact List.not_mem_nil

theorem OnPage.holds (hg : OnPage g) : (g w).Holds r ↔ w.Holds r := by
  obtain ⟨f, hf⟩ := hg
  rw [hf]
  cases r <;> rfl

theorem holds_scopes (scopes : List Scope) : { w with scopes }.Holds r ↔ w.Holds r := by
  cases r <;> rfl

theorem holds_issued (issued : List String) : { w with issued }.Holds r ↔ w.Holds r := by
  cases r <;> rfl

theorem holds_addUse (path : String) : (w.addUse path).Holds r ↔ w.Holds r ∨ r = .path path := by
  cases r with
  | path path' =>
    change path' ∈ w.uses.insert path ↔ path' ∈ w.uses ∨ _
    rw [Std.ExtTreeSet.mem_insert, Std.compare_eq_iff_eq, Recording.path.injEq, or_comm, eq_comm]
  | package _ | item _ | child _ | preamble _ => exact (or_iff_left nofun).symm

theorem holds_declare (m : Module) : (w.declare m).Holds r ↔ w.Holds r ∨ r = .child m.name := by
  cases r with
  | child name =>
    change name ∈ w.modules.insert m.name _ ↔ name ∈ w.modules ∨ _
    rw [Std.ExtTreeMap.mem_insert, Std.compare_eq_iff_eq, Recording.child.injEq, or_comm, eq_comm]
  | package _ | item _ | path _ | preamble _ => exact (or_iff_left nofun).symm

theorem holds_depend (d : Dependency Code) :
    (w.depend d).Holds r ↔ w.Holds r ∨ r = .ofDependency d := by
  cases d with
  | cargo d =>
    cases r with
    | package d' =>
      change d' ∈ w.dependencies.cargo.insert d ↔ d' ∈ w.dependencies.cargo ∨ _
      rw [Std.ExtTreeSet.mem_insert, Std.compare_eq_iff_eq, Recording.ofDependency,
        Recording.package.injEq, or_comm, eq_comm]
    | item _ | path _ | child _ | preamble _ => exact (or_iff_left nofun).symm
  | inline i =>
    cases r with
    | item key =>
      change key ∈ w.dependencies.inline.insertIfNew i.key i ↔ key ∈ w.dependencies.inline ∨ _
      rw [Std.ExtTreeMap.mem_insertIfNew, Std.compare_eq_iff_eq, Recording.ofDependency,
        Recording.item.injEq, or_comm, eq_comm]
    | package _ | path _ | child _ | preamble _ => exact (or_iff_left nofun).symm

theorem holds_insertAll (ds : List (Dependency Code)) :
    { w with dependencies := w.dependencies.insertAll ds }.Holds r ↔
      w.Holds r ∨ ∃ d ∈ ds, r = .ofDependency d := by
  induction ds generalizing w with
  | nil =>
    refine Iff.trans ?_ (or_iff_left fun ⟨_, hd, _⟩ => List.not_mem_nil hd).symm
    rfl
  | cons d ds ih =>
    refine (ih (w.depend d)).trans ?_
    rw [holds_depend, or_assoc, List.exists_mem_cons_iff]

theorem holds_preamble (text : String) :
    { w with preamble := w.preamble ++ [text] }.Holds r ↔ w.Holds r ∨ r = .preamble text := by
  cases r with
  | preamble text' =>
    change text' ∈ w.preamble ++ [text] ↔ text' ∈ w.preamble ∨ _
    rw [List.mem_append, List.mem_singleton, Recording.preamble.injEq]
  | package _ | item _ | path _ | child _ => exact (or_iff_left nofun).symm

theorem holds_mergeDependencies (inner : Writer) :
    { w with dependencies := w.dependencies.merge inner.dependencies }.Holds r ↔
      w.Holds r ∨ r.IsDependency ∧ inner.Holds r := by
  cases r with
  | package d => exact Dependencies.mem_merge.trans (or_congr_right (iff_of_eq (true_and _)).symm)
  | item key =>
    exact SortedMap.mem_foldl_insertIfNew.trans (or_congr_right (iff_of_eq (true_and _)).symm)
  | path _ | child _ | preamble _ => exact (or_iff_left fun h => h.1).symm

theorem holds_embed (m : Module) (inner : Writer) :
    (w.embed m inner).Holds r ↔ w.Holds r ∨ r.IsDependency ∧ inner.Holds r := by
  rw [w.embed_eq]
  refine (holds_mergeDependencies _ inner).trans (or_congr_left ?_)
  exact OnPage.holds w (.withBlock m inner.blockContents)

theorem holds_merge (child : Writer) :
    (w.merge child).Holds r ↔ w.Holds r ∨ r.Merged ∧ child.Holds r := by
  cases r with
  | package d => exact w.holds_mergeDependencies (r := .package d) child
  | item key => exact w.holds_mergeDependencies (r := .item key) child
  | path path =>
    exact SortedSet.mem_foldl_insert.trans (or_congr_right (iff_of_eq (true_and _)).symm)
  | child name =>
    exact SortedMap.mem_foldl_insertIfNew.trans (or_congr_right (iff_of_eq (true_and _)).symm)
  | preamble _ => exact (or_iff_left fun h => h.1).symm

end Writer

/-- Whether something is recorded by an action that starts on a writer. Unlike an account, a log
tells what is recorded up to a failure as well. -/
abbrev Log :=
  Writer → Prop

namespace Log

variable {α : Type} (r : Recording)

def never : Log :=
  fun _ => False

def mentions (ds : List (Dependency Code)) : Log :=
  fun _ => ∃ d ∈ ds, r = .ofDependency d

def andThen (x : WriterM α) (first : Log) (next : α → Log) : Log :=
  fun w => first w ∨ ∃ a w', outcome x w = (.ok a, w') ∧ next a w'

def inScope (args : List (String × Arg Code)) (log : Log) : Log :=
  fun w => ∃ s, Scope.ofArgs args = .ok s ∧ log (w.pushScope s)

def within (before : String) (log : Log) : Log :=
  fun w => log (w.openBlock (Text.trim before))

/-- What a fragment records is passed on or not, and something may be recorded of its text. A
fragment that fails leaves nothing. -/
def onFragment (passed : Prop) (ns : String → String) (x : WriterM Unit) (log : Log)
    (own : Writer → Prop) : Log :=
  fun w => ∃ child, outcome x (w.fragment (ns w.ns)) = (.ok (), child) ∧
    (passed ∧ log (w.fragment (ns w.ns)) ∨ own child)

end Log

namespace Code

section

variable (r : Recording) (passed : Prop) (splice : Code → WriterM Unit) (spliced : Code → Log)

def fragmentLog (c : Code) : Log :=
  .onFragment passed id (splice c) (spliced c) fun _ => False

def argLog (kind : Char) (arg : Arg Code) : Log :=
  match kind, arg with
  | 'T', .symbol s => .mentions r s.allDependencies
  | 'T', .type t => .mentions r t.dependency.toList
  | 'T', .code c => fragmentLog passed splice spliced c
  | 'W', .code c => fragmentLog passed splice spliced c
  | 'D', .symbol s => .mentions r s.allDependencies
  | 'D', .type t => .mentions r t.dependency.toList
  | _, _ => .never

def directiveLog (key : String) (kind : Char) : Log :=
  fun w => ∃ arg, Scope.lookup w.scopes key = some arg ∧ argLog r passed splice spliced kind arg w

def piecesLog : List Template.Piece → Log
  | [] => .never
  | .char _ :: rest => piecesLog rest
  | .sharp :: rest => piecesLog rest
  | .directive key kind :: rest =>
    .andThen (renderDirective splice key (kind.getD 'T'))
      (directiveLog r passed splice spliced key (kind.getD 'T')) fun _ => piecesLog rest

def templateLog (template : String) : Log :=
  fun w => ∃ canonical,
    Template.canonicalize w.scopes (Text.dedent template).toList = .ok canonical ∧
      piecesLog r passed splice spliced (Template.Form.canonical.pieces 0 canonical) w

/-- Whether code records something, on its writer or, if that is passed on, on a fragment in it. The
fragments that templates refer to are logged by `spliced`. -/
def log : Code → Log
  | .nothing | .fail _ | .line _ | .inlineText _ | .openBlock _ | .closeBlock _
  | .comment _ _ => .never
  | .seq first second => .andThen (exec splice first) (log first) fun _ => log second
  | .attempt body => log body
  | .template text args => .inScope args (templateLog r passed splice spliced text)
  | .inlineTemplate text args => .inScope args (templateLog r passed splice spliced text)
  | .scope args body => .inScope args (log body)
  | .within before _ body => .within before (log body)
  | .block header body => fun w =>
    Log.within (WriterM.blockHeader (Text.dedent header)) (log body) w.mark
  | .blockTemplate header args body => fun w =>
    Log.inScope args (.andThen (renderTemplate splice header)
      (templateLog r passed splice spliced header)
      fun header => .within (WriterM.blockHeader header) (log body)) w.mark
  | .withinTemplate before after args body =>
    .inScope args (.andThen (renderTemplate splice before)
      (templateLog r passed splice spliced before)
      fun before => .andThen (renderTemplate splice after)
        (templateLog r passed splice spliced after) fun _ => .within before (log body))
  | .addUse path => fun _ => r = .path path
  | .declare m => fun _ => r = .child m.name
  | .depend d => fun _ => r = .ofDependency d
  | .mention s => .mentions r s.allDependencies
  | .withName base body => fun w => log (body (w.freshName base)) (w.issue (w.freshName base))
  | .look body => fun w => log (body w.view) w
  | .preamble body => .onFragment passed id (exec splice body) (log body)
    fun child => r = .preamble (Text.trimEnd child.page.text)
  | .inlineModule m body => .onFragment r.IsDependency (· ++ "::" ++ m.name) (exec splice body)
    (log body) fun _ => False

end

/-- Whether code that is run on a writer records something there, or, if that is passed on, on a
fragment that it splices or sets in front of the file, at any depth. -/
def Records (r : Recording) (passed : Prop) : Nat → Code → Log
  | 0 => fun _ => .never
  | depth + 1 => log r passed (run depth) (Records r passed depth)

end Code

/-! ## What a writer ends with -/

namespace WriterM

variable {α β : Type} {r : Recording} {x : WriterM α} {f : α → WriterM β} {log : Log}

/-- However the action ends, the writer holds what it held before and what the log tells. -/
def Logged (r : Recording) (x : WriterM α) (log : Log) : Prop :=
  ∀ w, (outcome x w).2.Holds r ↔ w.Holds r ∨ log w

namespace Logged

theorem of_same (h : ∀ w, (outcome x w).2.Holds r ↔ w.Holds r) : Logged r x .never :=
  fun w => (h w).trans (or_iff_left id).symm

theorem of_eq (h : ∀ w, (outcome x w).2 = w) : Logged r x .never :=
  of_same fun w => by rw [h]

theorem adds {g : Writer → Writer} (h : ∀ w, (g w).Holds r ↔ w.Holds r ∨ log w) :
    Logged r (modify g : WriterM Unit) log :=
  h

theorem onPage {g : Writer → Writer} (hg : Writer.OnPage g) :
    Logged r (modify g : WriterM Unit) .never :=
  of_same fun w => Writer.OnPage.holds w hg

theorem bind {next : α → Log} (hx : Logged r x log) (hf : ∀ a, Logged r (f a) (next a)) :
    Logged r (x >>= f) (.andThen x log next) := by
  intro w
  have hxw := hx w
  rw [outcome_bind]
  unfold Log.andThen
  cases h : outcome x w with
  | mk result w' =>
    rw [h] at hxw
    cases result with
    | error e => simpa only [Prod.mk.injEq, reduceCtorEq, false_and, exists_false, or_false]
    | ok a =>
      rw [hf, hxw, or_assoc]
      simp only [Prod.mk.injEq, Except.ok.injEq, and_assoc, exists_and_left, exists_eq_left']

theorem followedBy (hx : Logged r x log) (hf : ∀ a, Logged r (f a) .never) :
    Logged r (x >>= f) log := by
  intro w
  refine (hx.bind hf w).trans (or_congr_right (or_iff_left ?_))
  rintro ⟨_, _, _, h⟩
  exact h

theorem attempt {x : WriterM Unit} (hx : Logged r x log) : Logged r (Action.attempt x) log := by
  intro w
  have hxw := hx w
  rw [outcome_attempt]
  cases h : outcome x w with
  | mk result w' =>
    rw [h] at hxw
    cases result with
    | ok u => exact hxw
    | error e => cases e <;> exact hxw

theorem within (hx : Logged r x log) (before after : String) :
    Logged r (within before after x) (.within before log) := by
  intro w
  have hopen := Writer.OnPage.holds (r := r) w (.openBlock (Text.trim before))
  unfold WriterM.within
  rw [outcome_between]
  refine (Writer.OnPage.holds _ (.closeBlock (Text.trim after))).trans ?_
  rw [hx, hopen]
  rfl

theorem inScope (hx : Logged r x log) (args : List (String × Arg Code)) :
    Logged r (inScope args x) (.inScope args log) := by
  intro w
  rw [outcome_inScope]
  unfold Log.inScope
  cases Scope.ofArgs args with
  | error e => simp only [reduceCtorEq, false_and, exists_false, or_false]
  | ok s =>
    simp only [Except.ok.injEq, exists_eq_left']
    rw [Writer.popScope, Writer.holds_scopes, hx, Writer.pushScope, Writer.holds_scopes]

theorem marked (hx : Logged r x log) :
    Logged r (do modify Writer.mark; x) fun w => log w.mark := by
  intro w
  rw [outcome_bind_ok (outcome_modify _ w), hx, Writer.OnPage.holds w .mark]

theorem onFragment {x : WriterM Unit} (hx : Logged r x log) (ns : String → String)
    {absorb : Writer → Writer → Writer} {passed : Prop} {own : Writer → Prop} {result : Writer → α}
    (habsorb : ∀ w child,
      (absorb w child).Holds r ↔ w.Holds r ∨ (passed ∧ child.Holds r ∨ own child)) :
    Logged r
      (WriterM.onFragment ns x >>= fun child => do
        modify (absorb · child)
        return result child)
      (.onFragment passed ns x log own) := by
  intro w
  have hchild := (hx (w.fragment (ns w.ns))).trans (or_iff_right (w.fragment_holds (ns w.ns)))
  rw [outcome_bind, outcome_onFragment]
  unfold Log.onFragment
  cases h : outcome x (w.fragment (ns w.ns)) with
  | mk result child =>
    rw [h] at hchild
    cases result with
    | error e =>
      simp only [Prod.mk.injEq, reduceCtorEq, false_and, exists_false, or_false]
      exact w.holds_issued child.issued
    | ok u =>
      simp only [Prod.mk.injEq, true_and, exists_eq_left']
      refine (habsorb _ child).trans ?_
      rw [Writer.holds_issued, hchild]

end Logged

end WriterM

namespace Code

open WriterM (Logged)

variable {r : Recording} {splice : Code → WriterM Unit} {spliced : Code → Log}

theorem mentions_logged {α : Type} (ds : List (Dependency Code)) (a : α) :
    Logged r
      (do
        modify fun w : Writer => { w with dependencies := w.dependencies.insertAll ds }
        return a)
      (.mentions r ds) :=
  (Logged.adds fun w => w.holds_insertAll ds).followedBy fun _ => .of_eq fun _ => rfl

section

variable (h : ∀ c, Logged r (splice c) (spliced c))
include h

theorem renderFragment_logged (c : Code) :
    Logged r (renderFragment splice c) (fragmentLog r.Merged splice spliced c) := by
  have habsorb (w child : Writer) :
      (w.merge child).Holds r ↔ w.Holds r ∨ (r.Merged ∧ child.Holds r ∨ False) := by
    rw [w.holds_merge, or_false]
  exact (h c).onFragment id habsorb

theorem renderArg_logged (key : String) (kind : Char) (arg : Arg Code) :
    Logged r (renderArg splice key kind arg) (argLog r r.Merged splice spliced kind arg) := by
  unfold renderArg argLog
  dsimp only
  split
  · exact mentions_logged _ _
  · exact mentions_logged _ _
  · exact .of_eq fun _ => rfl
  · exact renderFragment_logged h _
  · exact renderFragment_logged h _
  · split <;> first | exact .of_eq fun _ => rfl | simp_all
  · exact mentions_logged _ _
  · exact mentions_logged _ _
  · split <;> first | exact .of_eq fun _ => rfl | simp_all
  · split <;> first | exact .of_eq fun _ => rfl | simp_all

theorem renderDirective_logged (key : String) (kind : Char) :
    Logged r (renderDirective splice key kind)
      (directiveLog r r.Merged splice spliced key kind) := by
  intro w
  unfold renderDirective directiveLog
  rw [outcome_bind_ok (outcome_get w)]
  cases Scope.lookup w.scopes key with
  | none =>
    simp only [reduceCtorEq, false_and, exists_false, or_false]
    rfl
  | some arg =>
    simp only [Option.some.injEq, exists_eq_left']
    exact renderArg_logged h key kind arg w

theorem expand_logged (out : String) (pieces : List Template.Piece) :
    Logged r (expand splice out pieces) (piecesLog r r.Merged splice spliced pieces) := by
  induction pieces generalizing out with
  | nil => exact .of_eq fun _ => rfl
  | cons piece pieces ih =>
    cases piece with
    | char c => exact ih _
    | sharp => exact ih _
    | directive key kind => exact (renderDirective_logged h key _).bind fun _ => ih _

theorem renderTemplate_logged (template : String) :
    Logged r (renderTemplate splice template)
      (templateLog r r.Merged splice spliced template) := by
  intro w
  unfold renderTemplate templateLog
  rw [outcome_bind_ok (outcome_get w)]
  dsimp only
  cases Template.canonicalize w.scopes (Text.dedent template).toList with
  | error e =>
    simp only [reduceCtorEq, false_and, exists_false, or_false]
    rfl
  | ok canonical =>
    rw [outcome_bind_ok (outcome_ofExcept_ok canonical w)]
    simp only [Except.ok.injEq, exists_eq_left']
    exact expand_logged h "" _ w

omit h in
theorem withName_logged (base : String) {body : String → Code}
    (hbody : ∀ name, Logged r (exec splice (body name))
      (log r r.Merged splice spliced (body name))) :
    Logged r (exec splice (.withName base body))
      (log r r.Merged splice spliced (.withName base body)) := by
  intro w
  refine (hbody (w.freshName base) (w.issue (w.freshName base))).trans (or_congr_left ?_)
  exact w.holds_issued (w.freshName base :: w.issued)

theorem exec_logged : ∀ c : Code, Logged r (exec splice c) (log r r.Merged splice spliced c)
  | .nothing | .fail _ => .of_eq fun _ => rfl
  | .seq first second => (exec_logged first).bind fun _ => exec_logged second
  | .attempt body => (exec_logged body).attempt
  | .line _ => .onPage (.markedLine _)
  | .inlineText _ => .onPage (.emit _)
  | .template text args =>
    ((renderTemplate_logged h text).inScope args).followedBy fun _ => .onPage (.markedLine _)
  | .inlineTemplate text args =>
    ((renderTemplate_logged h text).inScope args).followedBy fun _ => .onPage (.emit _)
  | .scope args body => (exec_logged body).inScope args
  | .openBlock header => .onPage (.openBlock header)
  | .closeBlock footer => .onPage (.closeBlock footer)
  | .within before after body => (exec_logged body).within before after
  | .block _ body => ((exec_logged body).within _ _).marked
  | .blockTemplate header args body =>
    (((renderTemplate_logged h header).bind fun _ =>
      (exec_logged body).within _ _).inScope args).marked
  | .withinTemplate before after args body =>
    ((renderTemplate_logged h before).bind fun _ =>
      (renderTemplate_logged h after).bind fun _ => (exec_logged body).within _ _).inScope args
  | .comment style text => .onPage (.comment style text)
  | .addUse path => .adds fun w => w.holds_addUse path
  | .declare m => .adds fun w => w.holds_declare m
  | .depend d => .adds fun w => w.holds_depend d
  | .mention s => .adds fun w => w.holds_insertAll s.allDependencies
  | .withName base body => withName_logged base fun name => exec_logged (body name)
  | .look body => fun w => exec_logged (body w.view) w
  | .preamble body => (exec_logged body).onFragment id fun w child => by
    refine ((w.merge child).holds_preamble (Text.trimEnd child.page.text)).trans ?_
    rw [w.holds_merge, or_assoc]
  | .inlineModule m body => (exec_logged body).onFragment _ fun w inner => by
    rw [w.holds_embed, or_false]

end

/-- What a writer holds behind a run is what it held before and what the run records, where of the
fragments everything counts but what stands in front of them. -/
theorem run_logged (depth : Nat) (c : Code) :
    Logged r (run depth c) (Records r r.Merged depth c) := by
  induction depth generalizing c with
  | zero => exact .of_eq fun _ => rfl
  | succ depth ih => exact exec_logged ih c

end Code

end CrateGen
