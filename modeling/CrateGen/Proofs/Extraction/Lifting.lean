import CrateGen.Proofs.Extraction.Result

namespace CrateGen

variable {m m' : Model} {i n : ShapeId} {member target : Shape}

namespace Extraction

/-- Under `n` stands a new root that takes over the constraints of the member `i`: a copy of what
`i` targets, with copies of its members. -/
structure IsLift (m m' : Model) (i : ShapeId) (member target : Shape) (n : ShapeId) : Prop where
  target_eq : ∃ t, member.kind = .member t ∧ m.get? t = some target
  root : n.member = none
  fresh : m.get? n = none
  shape : m'.get? n = some {
    id := n
    kind := target.kind.mapMembers (·.under n)
    traits := member.traits.constraints.insert (.refactored i) }
  copies : ∀ x, m'.get? (n.withMember x) =
    if target.id.withMember x ∈ target.kind.ownedMembers then
      (m.get? (target.id.withMember x)).map fun s => { s with id := n.withMember x }
    else none

/-- What a run makes of a model. -/
structure Lifting (m m' : Model) : Prop where
  moved : ∀ {i member}, m.Site i member → ∃ n target, IsLift m m' i member target n ∧
    m'.get? i = some { id := i, kind := .member n, traits := member.traits.withoutConstraints }
  apart : ∀ {i j member member' s s' n}, m.Site i member → m.Site j member' →
    m'.get? i = some s → m'.get? j = some s' → s.kind = .member n → s'.kind = .member n → i = j
  kept : ∀ {id s}, m.get? id = some s → ¬ m.Site id s → m'.get? id = some s
  new : ∀ {id}, m'.contains id = true → m.contains id = false →
    ∃ i member target n, m.Site i member ∧ IsLift m m' i member target n ∧
      (id = n ∨ ∃ x, target.id.withMember x ∈ target.kind.ownedMembers ∧ id = n.withMember x)

variable {e : Extract} {es : List Extract}

theorem Result.get?_withMember (hw : m.WellFormed) (hr : Result m es) (he : e ∈ es)
    (hx : Extracted m member target e) (x : String) :
    (m.insertAll (es.flatMap Extract.shapes)).get? (e.shape.id.withMember x) =
      if target.id.withMember x ∈ target.kind.ownedMembers then
        (m.get? (target.id.withMember x)).map fun s => { s with id := e.shape.id.withMember x }
      else none := by
  have hfree := hx.get?_withMember hw x
  split
  · next howned =>
    obtain ⟨-, original, -, -, ho, -⟩ := hw.owned (hx.target_get? hw) howned
    have hcopy := (hx.mem_members hw).mpr ⟨x, original, howned, ho, rfl⟩
    rw [ho]
    exact hr.get?_copy hw he hcopy
  · next howned =>
    cases hs : (m.insertAll (es.flatMap Extract.shapes)).get? (e.shape.id.withMember x) with
    | none => rfl
    | some s =>
      obtain ⟨e', he', hid, rfl | hcopy⟩ := hr.get?_new hw hfree hs
      · obtain ⟨i', member', target', -, hx'⟩ := hr.sound he'
        exact (ShapeId.withMember_ne hx'.root hid.symm).elim
      · obtain ⟨i', member', target', -, hx'⟩ := hr.sound he'
        obtain ⟨x', hx''⟩ := hx'.members_root hw hcopy
        have heq := (ShapeId.withMember_inj hx'.root hx.root (hx''.symm.trans hid)).1
        cases hr.eq_of_shape_id he' he heq
        obtain ⟨y, original, hy, -, rfl⟩ := (hx.mem_members hw).mp hcopy
        rw [(ShapeId.withMember_inj hx.root hx.root hid).2] at hy
        exact (howned hy).elim

theorem Result.isLift (hw : m.WellFormed) (hr : Result m es) (he : e ∈ es)
    (hi : m.get? i = some member) (hx : Extracted m member target e) :
    IsLift m (m.insertAll (es.flatMap Extract.shapes)) i member target e.shape.id where
  target_eq := hx.target_eq
  root := hx.root
  fresh := hx.fresh
  shape := by
    have htraits : e.shape.traits = member.traits.constraints.insert (.refactored i) := by
      rw [hx.shape_eq, ← hw.built.keyed hi]
      rfl
    rw [hr.get?_shape hw he, ← htraits, ← hx.shape_kind hw]
  copies := hr.get?_withMember hw he hx

theorem Result.lifting (hw : m.WellFormed) (hr : Result m es) :
    Lifting m (m.insertAll (es.flatMap Extract.shapes)) := by
  have hmoved {i member} (hsite : m.Site i member) : ∃ e ∈ es, ∃ target,
      Extracted m member target e ∧ (m.insertAll (es.flatMap Extract.shapes)).get? i = some
        { id := i, kind := .member e.shape.id, traits := member.traits.withoutConstraints } := by
    rcases hr.get?_old hw hsite.1.get? with ⟨-, hno⟩ | ⟨e, he, target, hx, -, hget⟩
    · exact (hno hsite).elim
    · rw [hx.member_id hw.built.keyed hsite.1.get?] at hget
      exact ⟨e, he, target, hx, hget⟩
  refine ⟨?_, ?_, ?_, ?_⟩
  · intro i member hsite
    obtain ⟨e, he, target, hx, hget⟩ := hmoved hsite
    exact ⟨e.shape.id, target, hr.isLift hw he hsite.1.get? hx, hget⟩
  · intro i j member member' s s' n hi hj hs hs' hk hk'
    obtain ⟨e, he, target, hx, hget⟩ := hmoved hi
    obtain ⟨e', he', target', hx', hget'⟩ := hmoved hj
    cases hs.symm.trans hget
    cases hs'.symm.trans hget'
    have heq : e = e' :=
      hr.eq_of_shape_id he he' ((ShapeKind.member.inj hk).trans (ShapeKind.member.inj hk').symm)
    -- both members are the one that the extract holds
    have hid := hx.member_id hw.built.keyed hi.1.get?
    have hid' := hx'.member_id hw.built.keyed hj.1.get?
    rw [heq, hid'] at hid
    exact (Shape.mk.inj hid).1.symm
  · intro id s hs hno
    rcases hr.get?_old hw hs with ⟨hget, -⟩ | ⟨-, -, -, -, hsite, -⟩
    · exact hget
    · exact (hno hsite).elim
  · intro id hin hout
    obtain ⟨s, hs⟩ := Model.contains_iff.mp hin
    obtain ⟨e, he, hid, hcase⟩ := hr.get?_new hw (Model.contains_eq_false.mp hout) hs
    obtain ⟨i, member, target, hsite, hx⟩ := hr.sound he
    refine ⟨i, member, target, e.shape.id, hsite, hr.isLift hw he hsite.1.get? hx, ?_⟩
    rcases hcase with rfl | hcopy
    · exact .inl hid.symm
    · obtain ⟨x, original, hx', -, rfl⟩ := (hx.mem_members hw).mp hcopy
      exact .inr ⟨x, hx', hid.symm⟩

end Extraction

namespace Extraction

/-- A constrained member whose target is a structure that holds another one. -/
def nestedBuilder : Builder :=
  ({} : Builder)
    |>.perform (.structure "ns#Inner" [] [⟨"x", "smithy.api#String", [.pattern "a"]⟩])
    |>.perform (.structure "ns#Outer" [] [⟨"inner", "ns#Inner", [.uniqueItems]⟩])
    |>.perform (.operation "ns#Op" (some "ns#Outer") none [])

def nested : Model :=
  nestedBuilder.model

/-- The builder accepts the model, and the pass rewrites it, each time that it runs. -/
theorem nested_checked :
    nestedBuilder.build.1.toOption.isSome = true ∧
    (∀ s ∈ nested.toList, ∀ x ∈ s.kind.ownedMembers,
      x = s.id.withMember (x.member.getD "") ∧ ((nested.get? x).bind Shape.target?).isSome) ∧
    (∀ s ∈ nested.toList, nested.contains s.id.container = true) ∧
    nested.extractConstraints.toOption.isSome = true ∧
    (nested.extractConstraints.bind Model.extractConstraints).toOption ≠
      nested.extractConstraints.toOption := by
  decide +kernel

theorem nested_built : nested.Built :=
  Builder.Reached.built (.perform (.perform (.perform .start _) _) _) nested_checked.1

end Extraction

end CrateGen
