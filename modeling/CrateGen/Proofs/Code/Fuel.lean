import CrateGen.Code.Crate
import CrateGen.Proofs.Code.Action

namespace CrateGen

namespace Action

variable {σ α β : Type} {x y z : Action σ α} {f g : α → Action σ β}

/-- Wherever `x` is not exhausted, `y` ends as it does. -/
def Below (x y : Action σ α) : Prop :=
  ∀ s, (outcome x s).1 ≠ .error .exhausted → outcome y s = outcome x s

namespace Below

theorem refl (x : Action σ α) : Below x x :=
  fun _ _ => rfl

theorem outcome_ok {a : α} {s s' : σ} (hx : Below x y) (h : outcome x s = (.ok a, s')) :
    outcome y s = (.ok a, s') := by
  rw [hx s, h]
  rw [h]
  intro he
  cases he

theorem bind (hx : Below x y) (hf : ∀ a, Below (f a) (g a)) : Below (x >>= f) (y >>= g) := by
  intro s hs
  rw [outcome_bind] at hs
  cases h : outcome x s with
  | mk r s' =>
    rw [h] at hs
    cases r with
    | error e =>
      have hne : (outcome x s).1 ≠ .error .exhausted := by
        rw [h]
        intro he
        cases he
        exact hs rfl
      have hy := hx s hne
      rw [outcome_bind, outcome_bind, hy, h]
    | ok a =>
      rw [outcome_bind, outcome_bind, hx.outcome_ok h, h]
      exact hf a s' hs

theorem between (enter leave : σ → σ) (hx : Below x y) :
    Below (Action.between enter leave x) (Action.between enter leave y) := by
  intro s hs
  rw [outcome_between, outcome_between, hx (enter s) hs]

theorem attempt {x y : Action σ Unit} (hx : Below x y) :
    Below (Action.attempt x) (Action.attempt y) := by
  intro s hs
  have hne : (outcome x s).1 ≠ .error .exhausted := by
    intro he
    apply hs
    rw [outcome_attempt]
    cases h : outcome x s with
    | mk r s' =>
      rw [h] at he
      have he : r = .error .exhausted := he
      rw [he]
  rw [outcome_attempt, hx s hne, outcome_attempt]

end Below

end Action

section

open CrateGen.Action

theorem WriterM.onFragment_below (ns : String → String) {x y : WriterM Unit} (h : Below x y) :
    Below (onFragment ns x) (onFragment ns y) := by
  intro w hw
  have hx := h (w.fragment (ns w.ns))
  rw [outcome_onFragment] at hw ⊢
  rw [outcome_onFragment, hx]
  intro he
  apply hw
  rw [he]
  rfl

theorem WriterM.inScope_below {α : Type} (args : List (String × Arg Code)) {x y : WriterM α}
    (h : Below x y) : Below (inScope args x) (inScope args y) :=
  (Below.refl _).bind fun s => h.between (·.pushScope s) Writer.popScope

theorem WriterM.within_below {α : Type} (before after : String) {x y : WriterM α} (h : Below x y) :
    Below (within before after x) (within before after y) :=
  h.between _ _

namespace Code

variable {splice splice' : Code → WriterM Unit} (h : ∀ c, Below (splice c) (splice' c))
include h

theorem renderFragment_below (c : Code) :
    Below (renderFragment splice c) (renderFragment splice' c) :=
  (WriterM.onFragment_below id (h c)).bind fun _ => .refl _

theorem renderArg_below (key : String) (kind : Char) (arg : Arg Code) :
    Below (renderArg splice key kind arg) (renderArg splice' key kind arg) := by
  unfold renderArg
  dsimp only
  split
  · exact .refl _
  · exact .refl _
  · exact .refl _
  · exact renderFragment_below h _
  · exact renderFragment_below h _
  · exact .refl _
  · exact .refl _
  · exact .refl _
  · exact .refl _
  · exact .refl _

theorem renderDirective_below (key : String) (kind : Char) :
    Below (renderDirective splice key kind) (renderDirective splice' key kind) := by
  refine (Below.refl _).bind fun w => ?_
  cases Scope.lookup w.scopes key with
  | none => exact .refl _
  | some arg => exact renderArg_below h key kind arg

theorem expand_below (out : String) (pieces : List Template.Piece) :
    Below (expand splice out pieces) (expand splice' out pieces) := by
  induction pieces generalizing out with
  | nil => exact .refl _
  | cons piece pieces ih =>
    cases piece with
    | char c => exact ih _
    | sharp => exact ih _
    | directive key kind => exact (renderDirective_below h key _).bind fun _ => ih _

theorem renderTemplate_below (template : String) :
    Below (renderTemplate splice template) (renderTemplate splice' template) :=
  (Below.refl _).bind fun _ => (Below.refl _).bind fun _ => expand_below h "" _

/-- Deeper splicing changes no run that is not exhausted. -/
theorem exec_below : ∀ c, Below (exec splice c) (exec splice' c)
  | .nothing => .refl _
  | .seq first second => (exec_below first).bind fun _ => exec_below second
  | .fail _ => .refl _
  | .attempt body => (exec_below body).attempt
  | .line _ => .refl _
  | .inlineText _ => .refl _
  | .template text args =>
    (WriterM.inScope_below args (renderTemplate_below h text)).bind fun _ => .refl _
  | .inlineTemplate text args =>
    (WriterM.inScope_below args (renderTemplate_below h text)).bind fun _ => .refl _
  | .scope args body => WriterM.inScope_below args (exec_below body)
  | .openBlock _ => .refl _
  | .closeBlock _ => .refl _
  | .within before after body => WriterM.within_below before after (exec_below body)
  | .block _ body => (Below.refl _).bind fun _ => WriterM.within_below _ _ (exec_below body)
  | .blockTemplate header args body =>
    (Below.refl _).bind fun _ => WriterM.inScope_below args <|
      (renderTemplate_below h header).bind fun _ => WriterM.within_below _ _ (exec_below body)
  | .withinTemplate before after args body =>
    WriterM.inScope_below args <| (renderTemplate_below h before).bind fun _ =>
      (renderTemplate_below h after).bind fun _ => WriterM.within_below _ _ (exec_below body)
  | .comment _ _ => .refl _
  | .addUse _ => .refl _
  | .declare _ => .refl _
  | .depend _ => .refl _
  | .mention _ => .refl _
  | .withName _ body =>
    (Below.refl _).bind fun _ => (Below.refl _).bind fun _ => exec_below (body _)
  | .look body => (Below.refl _).bind fun _ => exec_below (body _)
  | .preamble body => (WriterM.onFragment_below id (exec_below body)).bind fun _ => .refl _
  | .inlineModule _ body => (WriterM.onFragment_below _ (exec_below body)).bind fun _ => .refl _

omit h in
theorem run_below (c : Code) {depth depth' : Nat} (hle : depth ≤ depth') :
    Below (run depth c) (run depth' c) := by
  induction depth generalizing c depth' with
  | zero =>
    intro w hw
    exact absurd rfl hw
  | succ depth ih =>
    obtain ⟨depth', rfl⟩ := Nat.exists_eq_add_one.mpr (Nat.lt_of_lt_of_le (Nat.succ_pos _) hle)
    exact exec_below (fun c => ih c (Nat.le_of_succ_le_succ hle)) c

end Code

end

namespace Crate

open CrateGen.Action

variable {fuel fuel' : Nat}

theorem outcome_onFile (path : String) (x : WriterM Unit) {c : Crate} {w : Writer}
    (h : c.files[path]? = some w) :
    outcome (onFile path x) c =
      ((outcome x w).1, { c with files := c.files.insert path (outcome x w).2 }) := by
  unfold onFile outcome
  rw [ExceptT.run_mk]
  dsimp only [StateT.run]
  rw [h]
  rfl

theorem outcome_onFile_none (path : String) (x : WriterM Unit) {c : Crate}
    (h : c.files[path]? = none) :
    outcome (onFile path x) c = (.error (.failed (.unknownFile path)), c) := by
  unfold onFile outcome
  rw [ExceptT.run_mk]
  dsimp only [StateT.run]
  rw [h]

theorem outcome_onInline (path : String) (x : WriterM Unit) {c : Crate} {m : Module} {w : Writer}
    (h : c.inlineModules[path]? = some (m, w)) :
    outcome (onInline path x) c =
      ((outcome x w).1,
        { c with inlineModules := c.inlineModules.insert path (m, (outcome x w).2) }) := by
  unfold onInline outcome
  rw [ExceptT.run_mk]
  dsimp only [StateT.run]
  rw [h]
  rfl

theorem outcome_onInline_none (path : String) (x : WriterM Unit) {c : Crate}
    (h : c.inlineModules[path]? = none) :
    outcome (onInline path x) c = (.error (.failed (.unknownFile path)), c) := by
  unfold onInline outcome
  rw [ExceptT.run_mk]
  dsimp only [StateT.run]
  rw [h]

theorem onFile_below (path : String) {x y : WriterM Unit} (h : Below x y) :
    Below (onFile path x) (onFile path y) := by
  intro c hc
  cases hw : c.files[path]? with
  | none => rw [outcome_onFile_none path x hw, outcome_onFile_none path y hw]
  | some w =>
    rw [outcome_onFile path x hw] at hc ⊢
    rw [outcome_onFile path y hw, h w hc]

theorem onInline_below (path : String) {x y : WriterM Unit} (h : Below x y) :
    Below (onInline path x) (onInline path y) := by
  intro c hc
  cases hw : c.inlineModules[path]? with
  | none => rw [outcome_onInline_none path x hw, outcome_onInline_none path y hw]
  | some entry =>
    obtain ⟨m, w⟩ := entry
    rw [outcome_onInline path x hw] at hc ⊢
    rw [outcome_onInline path y hw, h w hc]

theorem onModule_below (m : Module) {x y : WriterM Unit} (h : Below x y) :
    Below (onModule m x) (onModule m y) := by
  unfold onModule
  split
  · exact (Below.refl _).bind fun _ => (Below.refl _).bind fun _ => onInline_below _ h
  · exact (Below.refl _).bind fun _ => onFile_below _ h

theorem write_below (m : Module) (code : Code) (hle : fuel ≤ fuel') :
    Below (write fuel m code) (write fuel' m code) :=
  onModule_below m (code.run_below hle)

theorem renderItems_below (hle : fuel ≤ fuel') (items : List (InlineItem Code)) :
    Below (renderItems fuel items) (renderItems fuel' items) := by
  induction items with
  | nil => exact .refl _
  | cons i items ih =>
    exact (Below.refl _).bind fun _ => (write_below i.module i.code hle).bind fun _ => ih

theorem renderPending_below (hle : fuel ≤ fuel') {rounds rounds' : Nat} (hrounds : rounds ≤ rounds') :
    Below (renderPending fuel rounds) (renderPending fuel' rounds') := by
  induction rounds generalizing rounds' with
  | zero =>
    intro c hc
    exact absurd rfl hc
  | succ rounds ih =>
    obtain ⟨rounds', rfl⟩ :=
      Nat.exists_eq_add_one.mpr (Nat.lt_of_lt_of_le (Nat.succ_pos _) hrounds)
    refine (Below.refl _).bind fun c => ?_
    dsimp only
    split
    · exact .refl _
    · exact (renderItems_below hle _).bind fun _ => ih (Nat.le_of_succ_le_succ hrounds)

theorem finalize_below (hle : fuel ≤ fuel') : Below (finalize fuel) (finalize fuel') := by
  refine (Below.refl _).bind fun c => ?_
  split
  · exact .refl _
  · exact (renderPending_below hle hle).bind fun _ => .refl _

end Crate

end CrateGen
