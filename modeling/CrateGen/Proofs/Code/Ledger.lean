import CrateGen.Proofs.Code.Content
import CrateGen.Proofs.SortedMap

namespace CrateGen

open CrateGen.Action

def Dependency.package? : Dependency Code → Option CargoDependency
  | .cargo d => some d
  | .inline _ => none

/-- The packages that an action records from a state on, wherever it records them. There are none
to tell where an operation fails, even if the action goes on as if it had not. -/
def Account (σ : Type) :=
  σ → Option (List CargoDependency)

namespace Account

variable {σ α : Type}

def silent : Account σ :=
  fun _ => some []

def failed : Account σ :=
  fun _ => none

def records (ds : List (Dependency Code)) : Account σ :=
  fun _ => some (ds.filterMap Dependency.package?)

def andThen (x : Action σ α) (first : Account σ) (next : α → Account σ) : Account σ :=
  fun s => do
    let ds ← first s
    match outcome x s with
    | (.ok a, s') => return ds ++ (← next a s')
    | (.error _, _) => none

def inScope (args : List (String × Arg Code)) (account : Account Writer) : Account Writer :=
  fun w =>
    match Scope.ofArgs args with
    | .ok scope => account (w.pushScope scope)
    | .error _ => none

def within (before : String) (account : Account Writer) : Account Writer :=
  fun w => account (w.openBlock (Text.trim before))

def onFragment (ns : String → String) (account : Account Writer) : Account Writer :=
  fun w => account (w.fragment (ns w.ns))

end Account

namespace Code

section

variable (splice : Code → WriterM Unit) (spliced : Code → Account Writer)

def argAccount (kind : Char) (arg : Arg Code) : Account Writer :=
  match kind, arg with
  | 'T', .symbol s => .records s.allDependencies
  | 'T', .type t => .records t.dependency.toList
  | 'T', .literal _ => .silent
  | 'T', .code c => .onFragment id (spliced c)
  | 'W', .code c => .onFragment id (spliced c)
  | 'D', .symbol s => .records s.allDependencies
  | 'D', .type t => .records t.dependency.toList
  | _, _ => .failed

def directiveAccount (key : String) (kind : Char) : Account Writer :=
  fun w =>
    match Scope.lookup w.scopes key with
    | none => none
    | some arg => argAccount spliced kind arg w

def piecesAccount : List Template.Piece → Account Writer
  | [] => .silent
  | .char _ :: rest => piecesAccount rest
  | .sharp :: rest => piecesAccount rest
  | .directive key kind :: rest =>
    .andThen (renderDirective splice key (kind.getD 'T'))
      (directiveAccount spliced key (kind.getD 'T')) fun _ => piecesAccount rest

def templateAccount (template : String) : Account Writer :=
  fun w =>
    match Template.canonicalize w.scopes (Text.dedent template).toList with
    | .ok canonical => piecesAccount splice spliced (Template.Form.canonical.pieces 0 canonical) w
    | .error _ => none

/-- The packages that code records. Those of the fragments that templates refer to are given by
`spliced`. -/
def account : Code → Account Writer
  | .nothing | .line _ | .inlineText _ | .openBlock _ | .closeBlock _ | .comment _ _ | .addUse _
  | .declare _ => .silent
  | .seq first second => .andThen (exec splice first) (account first) fun _ => account second
  | .fail _ => .failed
  | .attempt body => account body
  | .template text args => .inScope args (templateAccount splice spliced text)
  | .inlineTemplate text args => .inScope args (templateAccount splice spliced text)
  | .scope args body => .inScope args (account body)
  | .within before _ body => .within before (account body)
  | .block header body => fun w =>
    Account.within (WriterM.blockHeader (Text.dedent header)) (account body) w.mark
  | .blockTemplate header args body => fun w =>
    Account.inScope args (.andThen (renderTemplate splice header)
      (templateAccount splice spliced header)
      fun header => .within (WriterM.blockHeader header) (account body)) w.mark
  | .withinTemplate before after args body =>
    .inScope args (.andThen (renderTemplate splice before) (templateAccount splice spliced before)
      fun before => .andThen (renderTemplate splice after) (templateAccount splice spliced after)
        fun _ => .within before (account body))
  | .depend d => .records [d]
  | .mention s => .records s.allDependencies
  | .withName base body => fun w => account (body (w.freshName base)) (w.issue (w.freshName base))
  | .look body => fun w => account (body w.view) w
  | .preamble body => .onFragment id (account body)
  | .inlineModule m body => .onFragment (· ++ "::" ++ m.name) (account body)

end

/-- The packages that code records on a writer, with the depth that it is run to. -/
def runAccount : Nat → Code → Account Writer
  | 0 => fun _ => .failed
  | depth + 1 => account (run depth) (runAccount depth)

end Code

/-! ## What reaches the state -/

namespace Action

variable {σ α β : Type} {cargo : σ → CargoDependency → Prop} {x : Action σ α}
  {f : α → Action σ β} {account : Account σ}

/-- Where no operation fails, the action ends, and of the packages of the state exactly those of
the account are new. -/
def Accounted (cargo : σ → CargoDependency → Prop) (x : Action σ α) (account : Account σ) : Prop :=
  ∀ s ds, account s = some ds →
    ∃ a s', outcome x s = (.ok a, s') ∧ ∀ d, cargo s' d ↔ cargo s d ∨ d ∈ ds

namespace Accounted

theorem failed (x : Action σ α) : Accounted cargo x .failed :=
  fun _ _ h => nomatch h

theorem pure (a : α) : Accounted cargo (pure a : Action σ α) .silent := by
  rintro s ds ⟨⟩
  exact ⟨a, s, rfl, fun d => by rw [List.mem_nil_iff, or_false]⟩

theorem change {g : σ → σ} (h : ∀ s d, cargo (g s) d ↔ cargo s d) :
    Accounted cargo (modify g : Action σ Unit) .silent := by
  rintro s ds ⟨⟩
  exact ⟨(), g s, rfl, fun d => by rw [List.mem_nil_iff, or_false, h]⟩

theorem bind {next : α → Account σ} (hx : Accounted cargo x account)
    (hf : ∀ a, Accounted cargo (f a) (next a)) :
    Accounted cargo (x >>= f) (.andThen x account next) := by
  intro s ds h
  obtain ⟨first, hfirst, h⟩ := Option.bind_eq_some_iff.mp h
  obtain ⟨a, s₁, hrun, hcargo⟩ := hx s first hfirst
  rw [hrun] at h
  obtain ⟨second, hsecond, h⟩ := Option.bind_eq_some_iff.mp h
  obtain ⟨b, s₂, hrun', hcargo'⟩ := hf a s₁ second hsecond
  cases h
  refine ⟨b, s₂, (outcome_bind_ok hrun).trans hrun', fun d => ?_⟩
  rw [hcargo', hcargo, List.mem_append, or_assoc]

theorem followedBy (hx : Accounted cargo x account)
    (hf : ∀ a, Accounted cargo (f a) .silent) : Accounted cargo (x >>= f) account := by
  intro s ds h
  obtain ⟨a, s₁, hrun, hcargo⟩ := hx s ds h
  obtain ⟨b, s₂, hrun', hcargo'⟩ := hf a s₁ [] rfl
  refine ⟨b, s₂, (outcome_bind_ok hrun).trans hrun', fun d => ?_⟩
  rw [hcargo', hcargo, List.mem_nil_iff, or_false]

theorem attempt {x : Action σ Unit} (hx : Accounted cargo x account) :
    Accounted cargo (Action.attempt x) account := by
  intro s ds h
  obtain ⟨a, s', hrun, hcargo⟩ := hx s ds h
  refine ⟨a, s', ?_, hcargo⟩
  rw [outcome_attempt, hrun]

end Accounted

end Action

namespace Dependencies

variable {ds : Dependencies} {d : CargoDependency}

theorem mem_insert {dep : Dependency Code} :
    d ∈ (ds.insert dep).cargo ↔ d ∈ ds.cargo ∨ dep.package? = some d := by
  cases dep with
  | cargo package =>
    change d ∈ ds.cargo.insert package ↔ _ ∨ some package = some d
    rw [Std.ExtTreeSet.mem_insert, Std.compare_eq_iff_eq, Option.some.injEq, or_comm]
  | inline item =>
    change d ∈ ds.cargo ↔ _ ∨ none = some d
    rw [or_iff_left nofun]

theorem mem_insertAll {new : List (Dependency Code)} :
    d ∈ (ds.insertAll new).cargo ↔ d ∈ ds.cargo ∨ d ∈ new.filterMap Dependency.package? := by
  induction new generalizing ds with
  | nil => exact (or_iff_left List.not_mem_nil).symm
  | cons dep new ih =>
    change d ∈ ((ds.insert dep).insertAll new).cargo ↔ _
    rw [ih, mem_insert, or_assoc]
    refine or_congr_right ?_
    cases h : dep.package? with
    | none => rw [List.filterMap_cons_none h, or_iff_right nofun]
    | some package =>
      rw [List.filterMap_cons_some h, List.mem_cons, Option.some.injEq, eq_comm]

theorem mem_merge {new : Dependencies} :
    d ∈ (ds.merge new).cargo ↔ d ∈ ds.cargo ∨ d ∈ new.cargo :=
  SortedSet.mem_foldl_insert

end Dependencies

def Writer.Packs (w : Writer) (d : CargoDependency) : Prop :=
  d ∈ w.dependencies.cargo

namespace Action.Accounted

variable {α : Type} {x : WriterM α} {account : Account Writer}

theorem records (ds : List (Dependency Code)) :
    Accounted Writer.Packs
      (modify fun w : Writer => { w with dependencies := w.dependencies.insertAll ds } :
        WriterM Unit)
      (.records ds) := by
  rintro w _ ⟨⟩
  exact ⟨(), _, rfl, fun d => Dependencies.mem_insertAll⟩

theorem keeps {g : Writer → Writer} (h : ∀ w, (g w).dependencies = w.dependencies) :
    Accounted Writer.Packs (modify g : WriterM Unit) .silent :=
  change fun w d => by rw [Writer.Packs, h, Writer.Packs]

theorem between {enter leave : Writer → Writer} (hx : Accounted Writer.Packs x account)
    (henter : ∀ w, (enter w).dependencies = w.dependencies)
    (hleave : ∀ w, (leave w).dependencies = w.dependencies) :
    Accounted Writer.Packs (Action.between enter leave x) fun w => account (enter w) := by
  intro w ds h
  obtain ⟨a, w', hrun, hcargo⟩ := hx (enter w) ds h
  refine ⟨a, leave w', ?_, fun d => ?_⟩
  · rw [outcome_between, hrun]
  · rw [Writer.Packs, hleave]
    refine (hcargo d).trans ?_
    rw [Writer.Packs, henter, Writer.Packs]

theorem within (hx : Accounted Writer.Packs x account) (before after : String) :
    Accounted Writer.Packs (WriterM.within before after x) (.within before account) :=
  hx.between (fun w => w.openBlock_dependencies _) fun w => w.closeBlock_dependencies _

theorem inScope (hx : Accounted Writer.Packs x account) (args : List (String × Arg Code)) :
    Accounted Writer.Packs (WriterM.inScope args x) (.inScope args account) := by
  intro w ds h
  unfold Account.inScope at h
  unfold WriterM.inScope
  cases hs : Scope.ofArgs args with
  | error e =>
    rw [hs] at h
    cases h
  | ok s =>
    rw [hs] at h
    rw [outcome_bind_ok (outcome_ofExcept_ok s w)]
    have henter (w : Writer) : (w.pushScope s).dependencies = w.dependencies := rfl
    have hleave (w : Writer) : w.popScope.dependencies = w.dependencies := rfl
    exact hx.between henter hleave w ds h

theorem onFragment {x : WriterM Unit} (hx : Accounted Writer.Packs x account)
    (ns : String → String) {absorb : Writer → Writer → Writer}
    (habsorb : ∀ w child, (absorb w child).dependencies = w.dependencies.merge child.dependencies)
    {result : Writer → α} :
    Accounted Writer.Packs
      (WriterM.onFragment ns x >>= fun child => do
        modify (absorb · child)
        return result child)
      (.onFragment ns account) := by
  intro w ds h
  obtain ⟨_, child, hrun, hcargo⟩ := hx (w.fragment (ns w.ns)) ds h
  have hfragment := outcome_onFragment ns x w
  rw [hrun] at hfragment
  refine ⟨result child, _, outcome_bind_ok hfragment, fun d => ?_⟩
  change d ∈ (absorb { w with issued := child.issued } child).dependencies.cargo ↔ _
  rw [habsorb, Dependencies.mem_merge]
  have hempty : ¬(w.fragment (ns w.ns)).Packs d := Std.ExtTreeSet.not_mem_empty
  exact or_congr_right ((hcargo d).trans (or_iff_right hempty))

end Action.Accounted

namespace Code

open CrateGen.Action

variable {splice : Code → WriterM Unit} {spliced : Code → Account Writer}

section

variable (h : ∀ c, Accounted Writer.Packs (splice c) (spliced c))
include h

theorem renderFragment_accounted (c : Code) :
    Accounted Writer.Packs (renderFragment splice c) (.onFragment id (spliced c)) := by
  have habsorb (w child : Writer) :
      (w.merge child).dependencies = w.dependencies.merge child.dependencies := rfl
  exact (h c).onFragment id habsorb

theorem renderArg_accounted (key : String) (kind : Char) (arg : Arg Code) :
    Accounted Writer.Packs (renderArg splice key kind arg) (argAccount spliced kind arg) := by
  unfold renderArg argAccount
  dsimp only
  split
  · exact (Accounted.records _).followedBy fun _ => .pure _
  · exact (Accounted.records _).followedBy fun _ => .pure _
  · exact .pure _
  · exact renderFragment_accounted h _
  · exact renderFragment_accounted h _
  · split <;> first | exact .failed _ | simp_all
  · exact (Accounted.records _).followedBy fun _ => .pure _
  · exact (Accounted.records _).followedBy fun _ => .pure _
  · split <;> first | exact .failed _ | simp_all
  · split <;> first | exact .failed _ | simp_all

theorem renderDirective_accounted (key : String) (kind : Char) :
    Accounted Writer.Packs (renderDirective splice key kind)
      (directiveAccount spliced key kind) := by
  intro w ds hds
  unfold directiveAccount at hds
  unfold renderDirective
  rw [outcome_bind_ok (outcome_get w)]
  cases harg : Scope.lookup w.scopes key with
  | none =>
    rw [harg] at hds
    cases hds
  | some arg =>
    rw [harg] at hds
    exact renderArg_accounted h key kind arg w ds hds

theorem expand_accounted (out : String) (pieces : List Template.Piece) :
    Accounted Writer.Packs (expand splice out pieces) (piecesAccount splice spliced pieces) := by
  induction pieces generalizing out with
  | nil => exact .pure out
  | cons piece pieces ih =>
    cases piece with
    | char c => exact ih _
    | sharp => exact ih _
    | directive key kind => exact (renderDirective_accounted h key _).bind fun _ => ih _

omit h in
theorem markedLine_accounted (text : String) :
    Accounted Writer.Packs (modify fun w => w.mark.emitLine text : WriterM Unit) .silent :=
  .keeps fun w => w.mark_dependencies

theorem renderTemplate_accounted (template : String) :
    Accounted Writer.Packs (renderTemplate splice template)
      (templateAccount splice spliced template) := by
  intro w ds hds
  unfold templateAccount at hds
  unfold renderTemplate
  rw [outcome_bind_ok (outcome_get w)]
  dsimp only
  cases hc : Template.canonicalize w.scopes (Text.dedent template).toList with
  | error e =>
    rw [hc] at hds
    cases hds
  | ok canonical =>
    rw [hc] at hds
    rw [outcome_bind_ok (outcome_ofExcept_ok canonical w)]
    exact expand_accounted h "" _ w ds hds

omit h in
theorem marked_accounted {α : Type} {x : WriterM α} {account : Account Writer}
    (hx : Accounted Writer.Packs x account) :
    Accounted Writer.Packs (do modify Writer.mark; x) fun w => account w.mark := by
  intro w ds hds
  obtain ⟨a, w', hrun, hcargo⟩ := hx w.mark ds hds
  refine ⟨a, w', (outcome_bind_ok (outcome_modify _ w)).trans hrun, fun d => ?_⟩
  rw [hcargo, Writer.Packs, w.mark_dependencies, Writer.Packs]

omit h in
theorem withName_accounted (base : String) {body : String → Code}
    (hbody : ∀ name, Accounted Writer.Packs (exec splice (body name))
      (account splice spliced (body name))) :
    Accounted Writer.Packs (exec splice (.withName base body))
      (account splice spliced (.withName base body)) :=
  fun w ds hds => hbody (w.freshName base) (w.issue (w.freshName base)) ds hds

omit h in
theorem look_accounted {body : WriterView → Code}
    (hbody : ∀ view, Accounted Writer.Packs (exec splice (body view))
      (account splice spliced (body view))) :
    Accounted Writer.Packs (exec splice (.look body)) (account splice spliced (.look body)) :=
  fun w ds hds => hbody w.view w ds hds

theorem exec_accounted : ∀ c : Code,
    Accounted Writer.Packs (exec splice c) (account splice spliced c)
  | .nothing => .pure ()
  | .seq first second => (exec_accounted first).bind fun _ => exec_accounted second
  | .fail _ => .failed _
  | .attempt body => (exec_accounted body).attempt
  | .line text => markedLine_accounted (Text.dedent text)
  | .inlineText _ => .keeps fun _ => rfl
  | .template text args =>
    ((renderTemplate_accounted h text).inScope args).followedBy markedLine_accounted
  | .inlineTemplate text args =>
    ((renderTemplate_accounted h text).inScope args).followedBy fun _ => .keeps fun _ => rfl
  | .scope args body => (exec_accounted body).inScope args
  | .openBlock header => .keeps fun w => w.openBlock_dependencies header
  | .closeBlock footer => .keeps fun w => w.closeBlock_dependencies footer
  | .within before after body => (exec_accounted body).within before after
  | .block _ body => marked_accounted ((exec_accounted body).within _ _)
  | .blockTemplate header args body =>
    marked_accounted (((renderTemplate_accounted h header).bind
      fun _ => (exec_accounted body).within _ _).inScope args)
  | .withinTemplate before after args body =>
    ((renderTemplate_accounted h before).bind fun _ =>
      (renderTemplate_accounted h after).bind
        fun _ => (exec_accounted body).within _ _).inScope args
  | .comment style text => .keeps fun w => w.comment_dependencies style text
  | .addUse _ => .keeps fun _ => rfl
  | .declare _ => .keeps fun _ => rfl
  | .depend d => .records [d]
  | .mention s => .records s.allDependencies
  | .withName base body => withName_accounted base fun name => exec_accounted (body name)
  | .look body => look_accounted fun view => exec_accounted (body view)
  | .preamble body => (exec_accounted body).onFragment id fun _ _ => rfl
  | .inlineModule m body => (exec_accounted body).onFragment _ fun w inner =>
    w.embed_dependencies m inner

end

/-- What reaches a writer is what the account of the code tells. -/
theorem run_accounted (depth : Nat) (c : Code) :
    Accounted Writer.Packs (run depth c) (runAccount depth c) := by
  induction depth generalizing c with
  | zero => exact .failed _
  | succ depth ih => exact exec_accounted ih c

end Code

end CrateGen
