import CrateGen.Proofs.Code.Action

namespace CrateGen.Action

variable {σ α β γ δ : Type}

/-- Two runs end alike: both with results, or both early and for the same kind of reason. -/
inductive Meets (Q : α → β → σ → σ → Prop) (E : σ → σ → Prop) :
    Except Halt α × σ → Except Halt β × σ → Prop where
  | ok {a : α} {b : β} {s t : σ} : Q a b s t → Meets Q E (.ok a, s) (.ok b, t)
  | failed {e e' : Error} {s t : σ} : E s t →
    Meets Q E (.error (.failed e), s) (.error (.failed e'), t)
  | exhausted {s t : σ} : E s t → Meets Q E (.error .exhausted, s) (.error .exhausted, t)

/-- On states that are related by `P`, two actions end alike: with results related by `Q`, or early
on states that are related by `E`. -/
def Coupled (P : σ → σ → Prop) (x : Action σ α) (y : Action σ β) (Q : α → β → σ → σ → Prop)
    (E : σ → σ → Prop) : Prop :=
  ∀ s t, P s t → Meets Q E (outcome x s) (outcome y t)

/-- The same action on related states ends with the same result. -/
def Steady (P : σ → σ → Prop) (x : Action σ α) (Q E : σ → σ → Prop) : Prop :=
  Coupled P x x (fun a b s t => a = b ∧ Q s t) E

variable {P Q E P' Q' E' : σ → σ → Prop} {R : α → β → σ → σ → Prop} {x : Action σ α}
  {y : Action σ β}

theorem Meets.mono {R' : α → β → σ → σ → Prop} {p : Except Halt α × σ} {q : Except Halt β × σ}
    (h : Meets R E p q) (hR : ∀ a b s t, R a b s t → R' a b s t) (hE : ∀ s t, E s t → E' s t) :
    Meets R' E' p q := by
  cases h with
  | ok h => exact .ok (hR _ _ _ _ h)
  | failed h => exact .failed (hE _ _ h)
  | exhausted h => exact .exhausted (hE _ _ h)

namespace Coupled

theorem bind {R' : γ → δ → σ → σ → Prop} {f : α → Action σ γ} {g : β → Action σ δ}
    (h : Coupled P x y R E) (hf : ∀ a b, Coupled (R a b) (f a) (g b) R' E) :
    Coupled P (x >>= f) (y >>= g) R' E := by
  intro s t hst
  have hxy := h s t hst
  rw [outcome_bind, outcome_bind]
  generalize outcome x s = p at hxy ⊢
  generalize outcome y t = q at hxy ⊢
  cases hxy with
  | ok h => exact hf _ _ _ _ h
  | failed h => exact .failed h
  | exhausted h => exact .exhausted h

theorem attempt {x y : Action σ Unit} (h : Coupled P x y (fun _ _ => Q) Q) :
    Coupled P (attempt x) (attempt y) (fun _ _ => Q) Q := by
  intro s t hst
  have hxy := h s t hst
  rw [outcome_attempt, outcome_attempt]
  generalize outcome x s = p at hxy ⊢
  generalize outcome y t = q at hxy ⊢
  cases hxy with
  | ok h => exact .ok h
  | failed h => exact .ok h
  | exhausted h => exact .exhausted h

theorem between {R' : α → β → σ → σ → Prop} {enter leave enter' leave' : σ → σ}
    (h : Coupled P' x y R' E') (henter : ∀ s t, P s t → P' (enter s) (enter' t))
    (hleave : ∀ a b s t, R' a b s t → R a b (leave s) (leave' t))
    (hearly : ∀ s t, E' s t → E (leave s) (leave' t)) :
    Coupled P (between enter leave x) (between enter' leave' y) R E := by
  intro s t hst
  have hxy := h _ _ (henter s t hst)
  rw [outcome_between, outcome_between]
  generalize outcome x (enter s) = p at hxy ⊢
  generalize outcome y (enter' t) = q at hxy ⊢
  cases hxy with
  | ok h => exact .ok (hleave _ _ _ _ h)
  | failed h => exact .failed (hearly _ _ h)
  | exhausted h => exact .exhausted (hearly _ _ h)

end Coupled

namespace Steady

theorem pure (a : α) (h : ∀ s t, P s t → Q s t) : Steady P (pure a : Action σ α) Q E :=
  fun s t hst => .ok ⟨rfl, h s t hst⟩

theorem same (x : Action σ α) : Steady Eq x Eq Eq := by
  rintro s _ rfl
  cases outcome x s with
  | mk r t =>
    rcases r with (e | _) | a
    · exact .failed rfl
    · exact .exhausted rfl
    · exact .ok ⟨rfl, rfl⟩

theorem fail (e : Error) (h : ∀ s t, P s t → E s t) : Steady P (fail e : Action σ α) Q E :=
  fun s t hst => .failed (h s t hst)

theorem modify {g : σ → σ} (h : ∀ s t, P s t → Q (g s) (g t)) :
    Steady P (modify g : Action σ Unit) Q E :=
  fun s t hst => .ok ⟨rfl, h s t hst⟩

theorem mono (h : Steady P x Q E) (hP : ∀ s t, P' s t → P s t) (hQ : ∀ s t, Q s t → Q' s t)
    (hE : ∀ s t, E s t → E' s t) : Steady P' x Q' E' :=
  fun s t hst => (h s t (hP s t hst)).mono (fun _ _ _ _ ⟨hab, hst⟩ => ⟨hab, hQ _ _ hst⟩) hE

theorem bind {f : α → Action σ β} (h : Steady P x Q E) (hf : ∀ a, Steady Q (f a) Q' E) :
    Steady P (x >>= f) Q' E := by
  refine Coupled.bind h fun a b => ?_
  rintro s t ⟨rfl, hst⟩
  exact hf a s t hst

theorem read {f : σ → Action σ β} (h : ∀ s t, P s t → f s = f t)
    (hf : ∀ s t, P s t → Steady P (f s) Q E) : Steady P (get >>= f) Q E := by
  intro s t hst
  rw [outcome_bind_ok (outcome_get s), outcome_bind_ok (outcome_get t), ← h s t hst]
  exact hf s t hst s t hst

theorem attempt {x : Action σ Unit} (h : Steady P x Q E) (hE : ∀ s t, E s t → Q s t) :
    Steady P (attempt x) Q Q := by
  have hxy : Coupled P x x (fun _ _ => Q) Q := fun s t hst =>
    (h s t hst).mono (fun _ _ _ _ h => h.2) hE
  exact fun s t hst => (hxy.attempt s t hst).mono (fun _ _ _ _ h => ⟨rfl, h⟩) fun _ _ h => h

theorem between {enter leave : σ → σ} (h : Steady P' x Q' E')
    (henter : ∀ s t, P s t → P' (enter s) (enter t))
    (hleave : ∀ s t, Q' s t → Q (leave s) (leave t))
    (hearly : ∀ s t, E' s t → E (leave s) (leave t)) :
    Steady P (between enter leave x) Q E :=
  Coupled.between h henter (fun _ _ _ _ ⟨hab, hst⟩ => ⟨hab, hleave _ _ hst⟩) hearly

end Steady

end CrateGen.Action

namespace CrateGen.WriterM

open CrateGen.Action

variable {α : Type} {x : WriterM α} {P Q E P' Q' E' : Writer → Writer → Prop}

theorem steady_inScope {args : List (String × Arg Code)} (h : Steady P' x Q' E')
    (henter : ∀ s w v, Scope.ofArgs args = .ok s → P w v → P' (w.pushScope s) (v.pushScope s))
    (hleave : ∀ w v, Q' w v → Q w.popScope v.popScope)
    (hearly : ∀ w v, E' w v → E w.popScope v.popScope) (hfail : ∀ w v, P w v → E w v) :
    Steady P (inScope args x) Q E := by
  intro w v hwv
  rw [outcome_inScope, outcome_inScope]
  cases hs : Scope.ofArgs args with
  | error e => exact .failed (hfail w v hwv)
  | ok s => exact h.between (henter s · · hs) hleave hearly w v hwv

theorem coupled_onFragment {ns : String → String} {x : WriterM Unit} (h : Steady P' x Q' E')
    (henter : ∀ w v, P w v → P' (w.fragment (ns w.ns)) (v.fragment (ns v.ns)))
    (hleave : ∀ w v c d, P w v → Q' c d →
      Q { w with issued := c.issued } { v with issued := d.issued })
    (hearly : ∀ w v c d, P w v → E' c d →
      E { w with issued := c.issued } { v with issued := d.issued }) :
    Coupled P (onFragment ns x) (onFragment ns x) (fun c d w v => Q' c d ∧ Q w v) E := by
  intro w v hwv
  have hxy := h _ _ (henter w v hwv)
  rw [outcome_onFragment, outcome_onFragment]
  generalize outcome x (w.fragment (ns w.ns)) = p at hxy ⊢
  generalize outcome x (v.fragment (ns v.ns)) = q at hxy ⊢
  cases hxy with
  | ok h => exact .ok ⟨h.2, hleave w v _ _ hwv h.2⟩
  | failed h => exact .failed (hearly w v _ _ hwv h)
  | exhausted h => exact .exhausted (hearly w v _ _ hwv h)

end CrateGen.WriterM
