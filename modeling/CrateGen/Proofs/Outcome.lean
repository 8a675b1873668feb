import Mathlib.Data.List.Forall2

namespace CrateGen.Outcome

variable {ε : Type u} {α β : Type v}

theorem ok_bind (a : α) (f : α → Except ε β) : (Except.ok a >>= f) = f a :=
  rfl

def fault? : Except ε α → Option ε
  | .ok _ => none
  | .error e => some e

theorem fault?_eq_some {x : Except ε α} {e : ε} : fault? x = some e ↔ x = .error e := by
  cases x <;> simp only [fault?, reduceCtorEq, Option.some.injEq, Except.error.injEq]

theorem fault?_eq_none {x : Except ε α} : fault? x = none ↔ ∃ a, x = .ok a := by
  cases x <;> simp only [fault?, reduceCtorEq, Except.ok.injEq, exists_eq', exists_false]

theorem exists_of_isSome {x : Except ε α} (h : x.toOption.isSome = true) : ∃ a, x = .ok a := by
  cases x with
  | error e => cases h
  | ok a => exact ⟨a, rfl⟩

theorem exists_of_any {x : Except ε α} {p : α → Bool} (h : x.toOption.any p = true) :
    ∃ a, x = .ok a ∧ p a = true := by
  cases x with
  | error e => cases h
  | ok a => exact ⟨a, rfl, h⟩

theorem bind_eq_ok {x : Except ε α} {f : α → Except ε β} {b : β} :
    (x >>= f) = .ok b ↔ ∃ a, x = .ok a ∧ f a = .ok b := by
  cases x with
  | error e => simp [bind, Except.bind]
  | ok a => simp [bind, Except.bind]

theorem mapM_eq_ok {f : α → Except ε β} {as : List α} {bs : List β} :
    as.mapM f = .ok bs ↔ List.Forall₂ (fun a b => f a = .ok b) as bs := by
  induction as generalizing bs with
  | nil =>
    rw [List.mapM_nil, List.forall₂_nil_left_iff]
    simp only [pure, Except.pure, Except.ok.injEq, eq_comm]
  | cons a as ih =>
    rw [List.mapM_cons, List.forall₂_cons_left_iff]
    simp only [bind_eq_ok, ih, pure, Except.pure, Except.ok.injEq]
    constructor
    · rintro ⟨b, hb, bs', hbs, rfl⟩
      exact ⟨b, bs', hb, hbs, rfl⟩
    · rintro ⟨b, bs', hb, hbs, rfl⟩
      exact ⟨b, hb, bs', hbs, rfl⟩

theorem mapM_congr {f g : α → Except ε β} {as : List α} (h : ∀ a ∈ as, f a = g a) :
    as.mapM f = as.mapM g := by
  induction as with
  | nil => rfl
  | cons a as ih =>
    rw [List.mapM_cons, List.mapM_cons, h a List.mem_cons_self,
      ih fun x hx => h x (List.mem_cons_of_mem _ hx)]

theorem exists_mapM_eq_ok {f : α → Except ε β} {as : List α}
    (h : ∀ a ∈ as, ∃ b, f a = .ok b) : ∃ bs, as.mapM f = .ok bs := by
  induction as with
  | nil => exact ⟨[], rfl⟩
  | cons a as ih =>
    obtain ⟨b, hb⟩ := h a List.mem_cons_self
    obtain ⟨bs, hbs⟩ := ih fun x hx => h x (List.mem_cons_of_mem _ hx)
    exact ⟨b :: bs, mapM_eq_ok.mpr (.cons hb (mapM_eq_ok.mp hbs))⟩

theorem exists_of_forall₂ {R : α → β → Prop} {as : List α} {bs : List β}
    (h : List.Forall₂ R as bs) {b : β} (hb : b ∈ bs) : ∃ a ∈ as, R a b := by
  induction h with
  | nil => cases hb
  | @cons a b' as bs hr hrest ih =>
    rcases List.mem_cons.mp hb with rfl | hb
    · exact ⟨a, List.mem_cons_self, hr⟩
    · obtain ⟨x, hx, hr⟩ := ih hb
      exact ⟨x, List.mem_cons_of_mem _ hx, hr⟩

theorem exists_of_forall₂_left {R : α → β → Prop} {as : List α} {bs : List β}
    (h : List.Forall₂ R as bs) {a : α} (ha : a ∈ as) : ∃ b ∈ bs, R a b :=
  exists_of_forall₂ h.flip ha

theorem exists_of_mem_lefts {γ : Type v} {R : α → β ⊕ γ → Prop} {as : List α} {bs : List (β ⊕ γ)}
    (h : List.Forall₂ R as bs) {b : β} (hb : b ∈ bs.filterMap Sum.getLeft?) :
    ∃ a ∈ as, R a (.inl b) := by
  obtain ⟨either, hmem, hleft⟩ := List.mem_filterMap.mp hb
  rw [Sum.getLeft?_eq_some_iff] at hleft
  subst hleft
  exact exists_of_forall₂ h hmem

theorem exists_of_mem_rights {γ : Type v} {R : α → β ⊕ γ → Prop} {as : List α} {bs : List (β ⊕ γ)}
    (h : List.Forall₂ R as bs) {c : γ} (hc : c ∈ bs.filterMap Sum.getRight?) :
    ∃ a ∈ as, R a (.inr c) := by
  obtain ⟨either, hmem, hright⟩ := List.mem_filterMap.mp hc
  rw [Sum.getRight?_eq_some_iff] at hright
  subst hright
  exact exists_of_forall₂ h hmem

theorem optionMapM_eq_ok {f : α → Except ε β} {a : Option α} {b : Option β} :
    a.mapM f = .ok b ↔ Option.Rel (fun x y => f x = .ok y) a b := by
  cases a with
  | none =>
    change Except.ok none = Except.ok b ↔ _
    rw [Except.ok.injEq]
    constructor
    · rintro rfl
      exact .none
    · intro h
      cases h
      rfl
  | some x =>
    change (f x >>= fun y => Except.ok (some y)) = .ok b ↔ _
    rw [bind_eq_ok]
    constructor
    · rintro ⟨y, hy, hb⟩
      cases hb
      exact .some hy
    · intro h
      cases h with
      | some hy => exact ⟨_, hy, rfl⟩

theorem exists_of_rel {R : α → β → Prop} {a : Option α} {b : Option β} (h : Option.Rel R a b)
    {y : β} (hy : y ∈ b) : ∃ x ∈ a, R x y := by
  cases h with
  | none => cases hy
  | some hr =>
    cases hy
    exact ⟨_, rfl, hr⟩

theorem rel_imp {R S : α → β → Prop} {a : Option α} {b : Option β} (h : Option.Rel R a b)
    (himp : ∀ x y, R x y → S x y) : Option.Rel S a b := by
  cases h with
  | none => exact .none
  | some hr => exact .some (himp _ _ hr)

/-- Both computations fail, or both give results that are related. -/
inductive Agree (R : α → β → Prop) : Except ε α → Except ε β → Prop where
  | error {e e' : ε} : Agree R (.error e) (.error e')
  | ok {a : α} {b : β} (h : R a b) : Agree R (.ok a) (.ok b)

theorem Agree.refl (x : Except ε α) : Agree Eq x x := by
  cases x with
  | error e => exact .error
  | ok a => exact .ok rfl

theorem Agree.and_eq_ok {R : α → β → Prop} {x : Except ε α} {y : Except ε β} (h : Agree R x y) :
    Agree (fun a b => R a b ∧ x = .ok a) x y := by
  cases h with
  | error => exact .error
  | ok h => exact .ok ⟨h, rfl⟩

theorem Agree.bind {γ δ : Type v} {R : α → β → Prop} {S : γ → δ → Prop} {x : Except ε α}
    {y : Except ε β} {f : α → Except ε γ} {g : β → Except ε δ} (h : Agree R x y)
    (hf : ∀ {a b}, R a b → Agree S (f a) (g b)) : Agree S (x >>= f) (y >>= g) := by
  cases h with
  | error => exact .error
  | ok h => exact hf h

theorem Agree.mapM {γ δ : Type v} {R : α → β → Prop} {S : γ → δ → Prop}
    {f : α → Except ε γ} {g : β → Except ε δ} {as : List α} {bs : List β}
    (h : List.Forall₂ R as bs) (hf : ∀ {a b}, R a b → Agree S (f a) (g b)) :
    Agree (List.Forall₂ S) (as.mapM f) (bs.mapM g) := by
  induction h with
  | nil => exact .ok .nil
  | @cons a b as bs hab hrest ih =>
    rw [List.mapM_cons, List.mapM_cons]
    exact (hf hab).bind fun hcd => ih.bind fun hrest => .ok (.cons hcd hrest)

theorem Agree.mapM_eq {γ : Type v} {R : α → β → Prop} {f : α → Except ε γ} {g : β → Except ε γ}
    {as : List α} {bs : List β} (h : List.Forall₂ R as bs)
    (hf : ∀ {a b}, R a b → Agree Eq (f a) (g b)) : Agree Eq (as.mapM f) (bs.mapM g) := by
  have hrel := Agree.mapM h hf
  rwa [List.forall₂_eq_eq_eq] at hrel

theorem Agree.optionMapM_eq {γ : Type v} {R : α → β → Prop} {f : α → Except ε γ}
    {g : β → Except ε γ} {a : Option α} {b : Option β} (h : Option.Rel R a b)
    (hf : ∀ {a b}, R a b → Agree Eq (f a) (g b)) : Agree Eq (a.mapM f) (b.mapM g) := by
  cases h with
  | none => exact .refl _
  | some h => exact (hf h).bind fun heq => heq ▸ .refl _

theorem Agree.eq_ok_iff {x y : Except ε α} (h : Agree Eq x y) {a : α} :
    x = .ok a ↔ y = .ok a := by
  cases h with
  | error => simp only [reduceCtorEq]
  | ok h => rw [h]

/-- The first element of a list that is bad, behind good ones only. -/
inductive First (Good : α → Prop) (Bad : α → ε → Prop) : List α → ε → Prop where
  | here {a : α} {as : List α} {e : ε} (h : Bad a e) : First Good Bad (a :: as) e
  | later {a : α} {as : List α} {e : ε} (h : Good a) (hrest : First Good Bad as e) :
    First Good Bad (a :: as) e

namespace First

variable {Good : α → Prop} {Bad : α → ε → Prop} {as : List α} {e e' : ε}

theorem not_all (h : First Good Bad as e) (hbad : ∀ {a e}, Bad a e → ¬ Good a) :
    ¬ ∀ a ∈ as, Good a := by
  intro hall
  induction h with
  | here h => exact hbad h (hall _ List.mem_cons_self)
  | later _ _ ih => exact ih fun a ha => hall a (List.mem_cons_of_mem _ ha)

theorem unique (h : First Good Bad as e) (h' : First Good Bad as e')
    (hbad : ∀ {a e}, Bad a e → ¬ Good a) (hunique : ∀ {a e e'}, Bad a e → Bad a e' → e = e') :
    e = e' := by
  induction h with
  | here h =>
    cases h' with
    | here h' => exact hunique h h'
    | later h' => exact (hbad h h').elim
  | later h _ ih =>
    cases h' with
    | here h' => exact (hbad h' h).elim
    | later _ hrest => exact ih hrest

end First

/-- A computation gives a result of one kind, or an error of another. -/
inductive Ends (F : ε → Prop) (P : α → Prop) : Except ε α → Prop where
  | ok {a : α} (h : P a) : Ends F P (.ok a)
  | error {e : ε} (h : F e) : Ends F P (.error e)

namespace Ends

variable {F : ε → Prop} {P P' : α → Prop} {Q : β → Prop} {x : Except ε α}

theorem of_ok {a : α} (h : Ends F P (.ok a)) : P a := by
  cases h with
  | ok h => exact h

theorem of_error {e : ε} (h : Ends F P (.error e)) : F e := by
  cases h with
  | error h => exact h

/-- An error that excludes results, and all other errors, is how a computation ends. -/
theorem eq_error_iff (h : Ends F P x) (hbad : ∀ {a e}, F e → ¬P a)
    (hunique : ∀ {e e'}, F e → F e' → e = e') {e : ε} : x = .error e ↔ F e := by
  cases h with
  | ok h => exact iff_of_false nofun fun he => hbad he h
  | error h => exact ⟨fun he => Except.error.inj he ▸ h, fun he => by rw [hunique h he]⟩

theorem mono (h : Ends F P x) (hp : ∀ a, P a → P' a) : Ends F P' x := by
  cases h with
  | ok h => exact .ok (hp _ h)
  | error h => exact .error h

theorem monoError {F' : ε → Prop} (h : Ends F P x) (hf : ∀ e, F e → F' e) : Ends F' P x := by
  cases h with
  | ok h => exact .ok h
  | error h => exact .error (hf _ h)

theorem bind {f : α → Except ε β} (h : Ends F P x) (hf : ∀ a, P a → Ends F Q (f a)) :
    Ends F Q (x >>= f) := by
  cases h with
  | ok h => exact hf _ h
  | error h => exact .error h

theorem discard (h : Ends F P x) : Ends F (fun _ => True) (Functor.discard x) := by
  cases h with
  | ok h => exact .ok trivial
  | error h => exact .error h

theorem mapM {f : α → Except ε β} {as : List α} (h : ∀ a ∈ as, Ends F Q (f a)) :
    Ends F (fun bs => ∀ b ∈ bs, Q b) (as.mapM f) := by
  induction as with
  | nil => exact .ok fun b hb => (List.not_mem_nil hb).elim
  | cons a as ih =>
    rw [List.mapM_cons]
    refine (h a List.mem_cons_self).bind fun b hb => ?_
    refine (ih fun a ha => h a (List.mem_cons_of_mem _ ha)).bind fun bs hbs => .ok ?_
    exact List.forall_mem_cons.mpr ⟨hb, hbs⟩

theorem mapM_first {Good : α → Prop} {Bad : α → ε → Prop} {R : α → β → Prop}
    {f : α → Except ε β} {as : List α} (h : ∀ a ∈ as, Ends (Bad a) (R a) (f a))
    (hgood : ∀ {a b}, R a b → Good a) :
    Ends (First Good Bad as) (List.Forall₂ R as) (as.mapM f) := by
  induction as with
  | nil => exact .ok .nil
  | cons a as ih =>
    rw [List.mapM_cons]
    have hhead : Ends (First Good Bad (a :: as)) (R a) (f a) :=
      (h a List.mem_cons_self).monoError fun e he => .here he
    apply hhead.bind
    intro b hb
    have hrest : Ends (First Good Bad (a :: as)) (List.Forall₂ R as) (as.mapM f) :=
      (ih fun a ha => h a (List.mem_cons_of_mem _ ha)).monoError fun e he => .later (hgood hb) he
    apply hrest.bind
    intro bs hbs
    exact .ok (.cons hb hbs)

theorem optionMapM {f : α → Except ε β} {a : Option α} (h : ∀ x ∈ a, Ends F Q (f x)) :
    Ends F (fun b => ∀ y ∈ b, Q y) (a.mapM f) := by
  cases a with
  | none => exact .ok fun y hy => (Option.not_mem_none y hy).elim
  | some x => exact (h x rfl).bind fun b hb => .ok fun y hy => Option.mem_some.mp hy ▸ hb

theorem optionMapM_rel {R : α → β → Prop} {f : α → Except ε β} {a : Option α}
    (h : ∀ x ∈ a, Ends F (R x) (f x)) : Ends F (Option.Rel R a) (a.mapM f) := by
  cases a with
  | none => exact .ok .none
  | some x => exact (h x rfl).bind fun y hy => .ok (.some hy)

theorem run_bind {ε σ α β : Type} {F : ε → Prop} {P : α → Prop} {Q : β → Prop}
    {x : ExceptT ε (StateM σ) α} {f : α → ExceptT ε (StateM σ) β} {s : σ}
    (h : Ends F P (x.run.run s).1) (hf : ∀ a s, P a → Ends F Q ((f a).run.run s).1) :
    Ends F Q ((x >>= f).run.run s).1 := by
  have hrun : (x >>= f).run.run s =
      (ExceptT.bindCont f (x.run.run s).1).run (x.run.run s).2 := rfl
  rw [hrun]
  cases hx : (x.run.run s).1 with
  | error e =>
    rw [hx] at h
    exact .error h.of_error
  | ok a =>
    rw [hx] at h
    exact hf a _ h.of_ok

end Ends

end CrateGen.Outcome
