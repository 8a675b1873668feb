import CrateGen.Code.Run

namespace CrateGen.Action

variable {σ α β : Type} {x : Action σ α} {f : α → Action σ β} {s s' : σ}

/-- How an action ends on a state, and the state it leaves. -/
def outcome (x : Action σ α) (s : σ) : Except Halt α × σ :=
  x.run.run s

@[simp] theorem outcome_ofExcept_ok (a : α) (s : σ) :
    outcome (ofExcept (.ok a)) s = (.ok a, s) :=
  rfl

@[simp] theorem outcome_get (s : σ) : outcome (get : Action σ σ) s = (.ok s, s) :=
  rfl

@[simp] theorem outcome_modify (g : σ → σ) (s : σ) :
    outcome (modify g : Action σ Unit) s = (.ok (), g s) :=
  rfl

theorem outcome_bind (x : Action σ α) (f : α → Action σ β) (s : σ) :
    outcome (x >>= f) s =
      match outcome x s with
      | (.ok a, s) => outcome (f a) s
      | (.error e, s) => (.error e, s) := by
  have h : outcome (x >>= f) s = (ExceptT.bindCont f (outcome x s).1).run (outcome x s).2 := rfl
  rw [h]
  obtain ⟨r, s'⟩ := outcome x s
  cases r <;> rfl

theorem outcome_bind_ok {a : α} (h : outcome x s = (.ok a, s')) :
    outcome (x >>= f) s = outcome (f a) s' := by
  rw [outcome_bind, h]

theorem outcome_bind_eq_ok {b : β} :
    outcome (x >>= f) s = (.ok b, s') ↔
      ∃ a s₁, outcome x s = (.ok a, s₁) ∧ outcome (f a) s₁ = (.ok b, s') := by
  constructor
  · intro h
    rw [outcome_bind] at h
    cases hx : outcome x s with
    | mk r s₁ =>
      rw [hx] at h
      cases r with
      | error e => cases h
      | ok a => exact ⟨a, s₁, rfl, h⟩
  · rintro ⟨a, s₁, hx, hf⟩
    rw [outcome_bind_ok hx, hf]

theorem outcome_between (enter leave : σ → σ) (x : Action σ α) (s : σ) :
    outcome (between enter leave x) s =
      ((outcome x (enter s)).1, leave (outcome x (enter s)).2) :=
  rfl

theorem outcome_attempt (x : Action σ Unit) (s : σ) :
    outcome (attempt x) s =
      match outcome x s with
      | (.error (.failed _), s) => (.ok (), s)
      | result => result :=
  rfl

theorem outcome_of_isOk {x : Action σ Unit} (h : (outcome x s).1.isOk = true) :
    outcome x s = (.ok (), (outcome x s).2) := by
  cases hx : outcome x s with
  | mk r t =>
    rw [hx] at h
    cases r with
    | error e => cases h
    | ok u => rfl

theorem isOk_of_bind (h : (outcome (x >>= f) s).1.isOk = true) :
    (outcome x s).1.isOk = true := by
  rw [outcome_bind] at h
  cases hx : outcome x s with
  | mk r t =>
    rw [hx] at h
    cases r with
    | error e => exact h
    | ok a => rfl

theorem outcome_onFragment (ns : String → String) (x : WriterM Unit) (w : Writer) :
    outcome (WriterM.onFragment ns x) w =
      ((outcome x (w.fragment (ns w.ns))).1.map fun _ => (outcome x (w.fragment (ns w.ns))).2,
        { w with issued := (outcome x (w.fragment (ns w.ns))).2.issued }) :=
  rfl

theorem outcome_onFragment_ok (ns : String → String) {x : WriterM Unit} {w child : Writer}
    (h : outcome x (w.fragment (ns w.ns)) = (.ok (), child)) :
    outcome (WriterM.onFragment ns x) w = (.ok child, { w with issued := child.issued }) := by
  rw [outcome_onFragment, h]
  rfl

theorem isOk_of_onFragment {ns : String → String} {x : WriterM Unit} {w : Writer}
    (h : (outcome (WriterM.onFragment ns x) w).1.isOk = true) :
    (outcome x (w.fragment (ns w.ns))).1.isOk = true := by
  rw [outcome_onFragment] at h
  cases hx : (outcome x (w.fragment (ns w.ns))).1 with
  | error e =>
    rw [hx] at h
    exact h
  | ok u => rfl

theorem outcome_inScope (args : List (String × Arg Code)) (x : WriterM α) (w : Writer) :
    outcome (WriterM.inScope args x) w =
      match Scope.ofArgs args with
      | .ok s => ((outcome x (w.pushScope s)).1, (outcome x (w.pushScope s)).2.popScope)
      | .error e => (.error (.failed e), w) := by
  unfold WriterM.inScope
  cases Scope.ofArgs args <;> rfl

theorem outcome_inScope_ok {args : List (String × Arg Code)} {s : Scope} {x : WriterM α} {a : α}
    {w w' : Writer} (hs : Scope.ofArgs args = .ok s)
    (h : outcome x (w.pushScope s) = (.ok a, w')) :
    outcome (WriterM.inScope args x) w = (.ok a, w'.popScope) := by
  rw [outcome_inScope, hs]
  dsimp only
  rw [h]

end CrateGen.Action

/-- An argument is rendered as a text at hand, behind what it refers to, or as a fragment. -/
theorem CrateGen.Code.renderArg_cases {splice : Code → WriterM Unit} {P : WriterM String → Prop}
    (key : String) (kind : Char) {arg : Arg Code} (hpure : ∀ text, P (pure text))
    (hfail : ∀ e, P (Action.fail e))
    (hsymbol : ∀ s text, arg = .symbol s → P (do modify (·.mention s); return text))
    (htype : ∀ t text, arg = .type t → P (do modify (·.mentionType t); return text))
    (hcode : ∀ c, arg = .code c → P (renderFragment splice c)) :
    P (renderArg splice key kind arg) := by
  unfold renderArg
  dsimp only
  split
  · exact hsymbol _ _ rfl
  · exact htype _ _ rfl
  · exact hpure _
  · exact hcode _ rfl
  · exact hcode _ rfl
  · exact hfail _
  · exact hsymbol _ _ rfl
  · exact htype _ _ rfl
  · exact hfail _
  · exact hfail _
