import CrateGen.Model.Extraction
import CrateGen.Proofs.Model.Built
import CrateGen.Proofs.Model.DepthFirst

namespace CrateGen

variable {m : Model} {id : ShapeId} {s : Shape}

theorem Traits.isConstrained_iff {ts : Traits} :
    ts.isConstrained = true ↔ ∃ k t, k.isConstraint = true ∧ ts.get? k = some t := by
  simp only [Traits.isConstrained, List.any_eq_true, Bool.and_eq_true, Traits.contains,
    Option.isSome_iff_exists]
  constructor
  · rintro ⟨k, -, hk, t, ht⟩
    exact ⟨k, t, hk, ht⟩
  · rintro ⟨k, t, hk, ht⟩
    exact ⟨k, Traits.mem_all k, hk, t, ht⟩

theorem Traits.isConstrained_withoutConstraints (ts : Traits) :
    ts.withoutConstraints.isConstrained = false := by
  rw [← Bool.not_eq_true, Traits.isConstrained_iff]
  rintro ⟨k, t, hk, ht⟩
  simp [Traits.withoutConstraints, Traits.filter, hk] at ht

def Model.IsRoot (m : Model) (root : ShapeId) : Prop :=
  ∃ id s input output errors, m.get? id = some s ∧ s.kind = .operation input output errors ∧
    (input = some root ∨ output = some root)

/-- References lead to the id from the input or the output of an operation. -/
def Model.Live (m : Model) (id : ShapeId) : Prop :=
  ∃ root, m.IsRoot root ∧ m.Reaches root id

/-- A shape that a live structure holds as its member `i`. -/
def Model.LiveMember (m : Model) (i : ShapeId) (member : Shape) : Prop :=
  ∃ id s, m.Live id ∧ m.get? id = some s ∧ s.isStructure = true ∧ i ∈ s.memberIds ∧
    m.get? i = some member

/-- A member of a live structure that carries constraints. -/
def Model.Site (m : Model) (i : ShapeId) (member : Shape) : Prop :=
  m.LiveMember i member ∧ member.traits.isConstrained = true

namespace Extraction

theorem mem_roots : id ∈ roots m ↔ m.IsRoot id := by
  simp only [roots, Model.operations, List.mem_flatMap, List.mem_filter, Model.mem_toList]
  constructor
  · rintro ⟨s, ⟨⟨i, hs⟩, -⟩, hr⟩
    split at hr
    · next input output errors hk =>
      refine ⟨i, s, input, output, errors, hs, hk, ?_⟩
      simpa only [List.mem_append, Option.mem_toList] using hr
    · cases hr
  · rintro ⟨i, s, input, output, errors, hs, hk, hr⟩
    refine ⟨s, ⟨⟨i, hs⟩, by rw [Shape.isOperation, hk]⟩, ?_⟩
    rw [hk]
    simpa only [List.mem_append, Option.mem_toList] using hr

/-- The extract `e` of a constrained member with the target `target`. -/
structure Extracted (m : Model) (member target : Shape) (e : Extract) : Prop where
  constrained : member.traits.isConstrained = true
  target_eq : ∃ t, member.kind = .member t ∧ m.get? t = some target
  buildable : isBuildable target.kind = true
  root : e.shape.id.member = none
  fresh : m.get? e.shape.id = none
  shape_eq : e.shape = (target.copyTo e.shape.id).withTraits
    (member.traits.constraints.insert (.refactored member.id))
  members_eq : List.Forall₂
    (fun x c => ∃ s, m.get? x = some s ∧ c = s.copyTo (e.shape.id.withMember s.memberName))
    target.kind.ownedMembers e.members
  member_eq : e.member =
    (member.withTraits member.traits.withoutConstraints).retarget e.shape.id

theorem freshId_eq_ok {taken : ShapeIds} {i n : ShapeId} (h : freshId m taken i = .ok n) :
    n.member = none ∧ m.get? n = none ∧ n ∉ taken := by
  rw [freshId] at h
  split at h
  · next suffix hs =>
    cases h
    have hfree : (!m.contains (candidate i suffix) && !taken.contains (candidate i suffix)) =
        true := by
      rw [Option.orElse_eq_orElse, Option.orElse_eq_or] at hs
      rcases Option.or_eq_some_iff.mp hs with hf | ⟨-, hf⟩
      · have hp := List.find?_some hf
        exact hp
      · have hp := List.find?_some hf
        exact hp
    rw [Bool.and_eq_true, Bool.not_eq_true', Bool.not_eq_true', Model.contains_eq_false] at hfree
    refine ⟨rfl, hfree.1, fun ht => ?_⟩
    rw [Std.ExtTreeSet.mem_iff_contains, hfree.2] at ht
    cases ht
  · cases h

theorem extract_of_not_constrained {taken : ShapeIds} {member : Shape}
    (h : member.traits.isConstrained = false) : extract m taken member = .ok none := by
  simp only [extract, h, Bool.not_false, ↓reduceIte]
  rfl

theorem extract_eq_ok {taken : ShapeIds} {member : Shape} {found : Option Extract}
    (h : extract m taken member = .ok found) :
    (member.traits.isConstrained = false ∧ found = none) ∨
      ∃ e target, found = some e ∧ Extracted m member target e ∧ e.shape.id ∉ taken := by
  cases hc : member.traits.isConstrained with
  | false =>
    rw [extract_of_not_constrained hc] at h
    cases h
    exact .inl ⟨rfl, rfl⟩
  | true =>
    refine .inr ?_
    simp only [extract, hc, Bool.not_true, Bool.false_eq_true, ↓reduceIte,
      Outcome.bind_eq_ok, Model.memberTarget_eq_ok] at h
    obtain ⟨target, ⟨t, hk, ht⟩, h⟩ := h
    cases hb : isBuildable target.kind with
    | false =>
      simp only [hb, Bool.not_false, ↓reduceIte] at h
      cases h
    | true =>
      simp only [hb, Bool.not_true, Bool.false_eq_true, ↓reduceIte, Outcome.bind_eq_ok] at h
      obtain ⟨n, hn, members, hm, h⟩ := h
      obtain ⟨hroot, hfresh, hfree⟩ := freshId_eq_ok hn
      cases h
      refine ⟨_, target, rfl, ⟨hc, ⟨t, hk, ht⟩, hb, hroot, hfresh, rfl, ?_, rfl⟩, hfree⟩
      refine (Outcome.mapM_eq_ok.mp hm).imp fun x c hx => ?_
      obtain ⟨s, hs, hx⟩ := Outcome.bind_eq_ok.mp hx
      cases hx
      exact ⟨s, Model.expect_eq_ok.mp hs, rfl⟩

theorem visitMembers_append (st : State) (ms ms' : List Shape) :
    visitMembers m st (ms ++ ms') = visitMembers m st ms >>= fun st => visitMembers m st ms' := by
  induction ms generalizing st with
  | nil => rfl
  | cons member ms ih =>
    simp only [List.cons_append, visitMembers]
    cases extract m st.taken member with
    | error e => rfl
    | ok found =>
      cases found with
      | none => exact ih st
      | some e => exact ih _

/-- A visit neither reads nor changes what was walked. -/
theorem visitMembers_visited {st st' : State} {ms : List Shape}
    (h : visitMembers m st ms = .ok st') (visited : ShapeIds) :
    st'.visited = st.visited ∧
      visitMembers m { st with visited } ms = .ok { st' with visited } := by
  induction ms generalizing st with
  | nil =>
    cases h
    exact ⟨rfl, rfl⟩
  | cons member ms ih =>
    obtain ⟨found, hf, h⟩ := Outcome.bind_eq_ok.mp h
    simp only [visitMembers, hf]
    cases found with
    | none => exact ih h
    | some e => exact ih h

/-- The extracts of a visit, one for each constrained member, under ids of their own. -/
theorem visitMembers_eq_ok {st st' : State} {ms : List Shape}
    (h : visitMembers m st ms = .ok st') :
    ∃ es, st'.extracts = st.extracts ++ es ∧
      List.Forall₂ (fun member e => ∃ target, Extracted m member target e)
        (ms.filter (·.traits.isConstrained)) es ∧
      (es.map (·.shape.id)).Nodup ∧ ∀ e ∈ es, e.shape.id ∉ st.taken := by
  induction ms generalizing st with
  | nil =>
    cases h
    exact ⟨[], (List.append_nil _).symm, .nil, List.nodup_nil, fun e he => by cases he⟩
  | cons member ms ih =>
    obtain ⟨found, hf, h⟩ := Outcome.bind_eq_ok.mp h
    rcases extract_eq_ok hf with ⟨hc, rfl⟩ | ⟨e, target, rfl, he, hfree⟩
    · rw [List.filter_cons, hc]
      exact ih h
    · obtain ⟨es, hes, hall, hnodup, htaken⟩ := ih h
      refine ⟨e :: es, ?_, ?_, ?_, ?_⟩
      · rw [hes, List.append_assoc]
        rfl
      · rw [List.filter_cons, if_pos he.constrained]
        exact .cons ⟨target, he⟩ hall
      · rw [List.map_cons, List.nodup_cons]
        refine ⟨fun hmem => ?_, hnodup⟩
        obtain ⟨e', he', hid⟩ := List.mem_map.mp hmem
        exact htaken e' he' (ShapeIds.mem_insert.mpr (.inl hid))
      · intro e' he'
        rcases List.mem_cons.mp he' with rfl | he'
        · exact hfree
        · exact fun ht => htaken e' he' (ShapeIds.mem_insert.mpr (.inr ht))

def IsMembersOf (m : Model) (ss ms : List Shape) : Prop :=
  ∀ member, member ∈ ms ↔
    ∃ s ∈ ss, s.isStructure = true ∧ ∃ x ∈ s.memberIds, m.get? x = some member

theorem IsMembersOf.append {ss ss' ms ms' : List Shape} (h : IsMembersOf m ss ms)
    (h' : IsMembersOf m ss' ms') : IsMembersOf m (ss ++ ss') (ms ++ ms') := by
  intro member
  simp only [List.mem_append, h member, h' member]
  constructor
  · rintro (⟨s, hs, hm⟩ | ⟨s, hs, hm⟩)
    · exact ⟨s, .inl hs, hm⟩
    · exact ⟨s, .inr hs, hm⟩
  · rintro ⟨s, hs | hs, hm⟩
    · exact .inl ⟨s, hs, hm⟩
    · exact .inr ⟨s, hs, hm⟩

theorem membersOf_eq_ok {ms : List Shape} (h : m.membersOf s = .ok ms) :
    ∀ member, member ∈ ms ↔ ∃ x ∈ s.memberIds, m.get? x = some member := by
  have hall := Outcome.mapM_eq_ok.mp h
  intro member
  constructor
  · intro hm
    obtain ⟨i, hi, rfl⟩ := List.mem_iff_getElem.mp hm
    have hi' : i < s.memberIds.length := by rw [hall.length_eq]; exact hi
    exact ⟨s.memberIds[i], List.getElem_mem hi', Model.expect_eq_ok.mp (hall.get hi' hi)⟩
  · rintro ⟨x, hx, hm⟩
    obtain ⟨i, hi, rfl⟩ := List.mem_iff_getElem.mp hx
    have hi' : i < ms.length := by rw [← hall.length_eq]; exact hi
    cases hm.symm.trans (Model.expect_eq_ok.mp (hall.get hi hi'))
    exact List.getElem_mem hi'

theorem visitShapes_eq_ok {st st' : State} {ss : List Shape}
    (h : visitShapes m st ss = .ok st') :
    ∃ ms, IsMembersOf m ss ms ∧ visitMembers m st ms = .ok st' := by
  induction ss generalizing st with
  | nil =>
    cases h
    exact ⟨[], fun member => by simp, rfl⟩
  | cons s ss ih =>
    rw [visitShapes] at h
    split at h
    · next hs =>
      obtain ⟨ms, hms, h⟩ := Outcome.bind_eq_ok.mp h
      obtain ⟨st₁, h₁, h⟩ := Outcome.bind_eq_ok.mp h
      obtain ⟨ms', hms', h'⟩ := ih h
      have hhead : IsMembersOf m [s] ms := by
        intro member
        rw [membersOf_eq_ok hms member]
        simp [hs]
      refine ⟨ms ++ ms', hhead.append hms', ?_⟩
      rw [visitMembers_append]
      exact Outcome.bind_eq_ok.mpr ⟨st₁, h₁, h'⟩
    · next hs =>
      obtain ⟨ms, hms, h'⟩ := ih h
      have hhead : IsMembersOf m [s] [] := by
        intro member
        simp [hs]
      exact ⟨ms, hhead.append hms, h'⟩

theorem visitRoots_eq_ok (hk : m.Keyed) {st st' : State} {rs : List ShapeId}
    (h : visitRoots m st rs = .ok st') :
    ∃ found ms, Walked m rs st.visited found st'.visited ∧ IsMembersOf m found ms ∧
      visitMembers m st ms = .ok { st' with visited := st.visited } := by
  induction rs generalizing st with
  | nil =>
    cases h
    exact ⟨[], [], .nil m _, fun member => by simp, rfl⟩
  | cons root rs ih =>
    obtain ⟨-, -, h⟩ := Outcome.bind_eq_ok.mp h
    obtain ⟨st₁, h₁, h⟩ := Outcome.bind_eq_ok.mp h
    have hw := Model.walk_walked hk root st.visited
    obtain ⟨ms, hms, hv⟩ := visitShapes_eq_ok h₁
    obtain ⟨found', ms', hw', hms', hv'⟩ := ih h
    obtain ⟨hvis, hv⟩ := visitMembers_visited hv st.visited
    rw [hvis] at hw'
    refine ⟨_, _, hw.append hw', hms.append hms', ?_⟩
    rw [visitMembers_append]
    exact Outcome.bind_eq_ok.mpr ⟨_, hv, (visitMembers_visited hv' st.visited).2⟩

end Extraction

end CrateGen
