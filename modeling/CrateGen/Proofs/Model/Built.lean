import CrateGen.Proofs.Model.Commands
import CrateGen.Proofs.Model.Lookup
import CrateGen.Proofs.Outcome

namespace CrateGen

variable {m : Model}

/-- The builders that calls lead to, from the empty one or from one that continues a built
model. -/
inductive Builder.Reached : Builder → Prop
  | start : Reached {}
  | resume {b : Builder} {m : Model} (hb : Reached b) (h : b.build.1 = .ok m) :
      Reached (.ofModel m)
  | perform {b : Builder} (hb : Reached b) (c : Builder.Command) : Reached (b.perform c)
  | build {b : Builder} (hb : Reached b) : Reached b.build.2

/-- The models that some builder gives. -/
def Model.Built (m : Model) : Prop :=
  ∃ b : Builder, b.Reached ∧ b.build.1 = .ok m

theorem Model.Keyed.insert (h : m.Keyed) (s : Shape) : (m.insert s).Keyed := by
  intro id t ht
  rw [Model.get?_insert] at ht
  split at ht
  · next hid =>
    cases ht
    exact hid
  · exact h ht

theorem Model.Keyed.insertAll (h : m.Keyed) (ss : List Shape) : (m.insertAll ss).Keyed := by
  induction ss generalizing m with
  | nil => exact h
  | cons s ss ih => exact ih (h.insert s)

theorem prelude_keyed : prelude.Keyed := by
  apply Model.Keyed.insertAll
  intro id s h
  simp [Model.get?] at h

namespace Builder

/-- A builder keeps the shapes of another one, apart from those it puts in their place. -/
def Continues (b b' : Builder) : Prop :=
  ∃ ss, b'.model = b.model.insertAll ss

theorem continues_perform (b : Builder) (c : Command) : b.Continues (b.perform c) :=
  ⟨c.declared.map Declaration.shape, by rw [perform_eq, follow]⟩

/-- A build ends with the same shapes and with no text to report, whatever it answers. -/
theorem build_after (b : Builder) : b.build.2 = .ofModel b.model := by
  rw [build, ofModel]
  cases hb : b.invalid with
  | some raw => rfl
  | none =>
    dsimp only
    rw [← hb]

theorem build_eq_ok {b : Builder} {m : Model} (h : b.build.1 = .ok m) :
    m = b.model ∧ b.model.Closed := by
  rw [build] at h
  split at h
  · cases h
  · rw [← Model.validate_eq_ok]
    cases hv : b.model.validate with
    | error e =>
      rw [hv] at h
      cases h
    | ok u =>
      rw [hv] at h
      cases h
      exact ⟨rfl, rfl⟩

theorem Reached.keyed {b : Builder} (h : b.Reached) : b.model.Keyed := by
  induction h with
  | start => exact prelude_keyed
  | resume _ h ih =>
    rw [(build_eq_ok h).1]
    exact ih
  | perform _ c ih =>
    obtain ⟨ss, hs⟩ := continues_perform _ c
    rw [hs]
    exact ih.insertAll ss
  | build _ ih =>
    rw [build_after]
    exact ih

end Builder

theorem Builder.Reached.built {b : Builder} (hb : b.Reached)
    (h : b.build.1.toOption.isSome = true) : b.model.Built := by
  obtain ⟨m, hm⟩ := Outcome.exists_of_isSome h
  cases (build_eq_ok hm).1
  exact ⟨b, hb, hm⟩

theorem Model.Built.keyed (h : m.Built) : m.Keyed := by
  obtain ⟨b, hb, hm⟩ := h
  rw [(Builder.build_eq_ok hm).1]
  exact hb.keyed

theorem Model.Built.closed (h : m.Built) : m.Closed := by
  obtain ⟨b, hb, hm⟩ := h
  rw [(Builder.build_eq_ok hm).1]
  exact (Builder.build_eq_ok hm).2

/-- A built model whose aggregates hold members of their own only, and whose members all have
their container with them. -/
structure Model.WellFormed (m : Model) : Prop where
  built : m.Built
  owned : ∀ {id s x}, m.get? id = some s → x ∈ s.kind.ownedMembers →
    ∃ name member target, x = id.withMember name ∧ m.get? x = some member ∧
      member.kind = .member target
  rooted : ∀ {id}, m.contains id = true → m.contains id.container = true

theorem Model.WellFormed.of_toList (hb : m.Built)
    (ho : ∀ s ∈ m.toList, ∀ x ∈ s.kind.ownedMembers,
      x = s.id.withMember (x.member.getD "") ∧ ((m.get? x).bind Shape.target?).isSome)
    (hr : ∀ s ∈ m.toList, m.contains s.id.container = true) : m.WellFormed where
  built := hb
  owned {id s x} hs hx := by
    cases hb.keyed hs
    obtain ⟨hx, ht⟩ := ho s (Model.mem_toList.mpr ⟨s.id, hs⟩) x hx
    obtain ⟨target, ht⟩ := Option.isSome_iff_exists.mp ht
    obtain ⟨member, hm, ht⟩ := Option.bind_eq_some_iff.mp ht
    refine ⟨_, member, target, hx, hm, ?_⟩
    rw [Shape.target?] at ht
    split at ht
    · next hk =>
      cases ht
      exact hk
    · cases ht
  rooted {id} hid := by
    obtain ⟨s, hs⟩ := Model.contains_iff.mp hid
    cases hb.keyed hs
    exact hr s (Model.mem_toList.mpr ⟨s.id, hs⟩)

end CrateGen
