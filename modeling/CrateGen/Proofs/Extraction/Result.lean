import CrateGen.Proofs.Extraction.Run
import Mathlib.Data.List.Nodup

namespace CrateGen

variable {m m' : Model} {id i n : ShapeId} {s member target : Shape}

/-- The id with the namespace and name of another one. -/
def ShapeId.under (x root : ShapeId) : ShapeId :=
  { x with ns := root.ns, name := root.name }

theorem ShapeId.withMember_inj {a b : ShapeId} {x y : String} (ha : a.member = none)
    (hb : b.member = none) (h : a.withMember x = b.withMember y) : a = b ∧ x = y := by
  cases a
  cases b
  simp only [withMember, mk.injEq, Option.some.injEq] at h ha hb ⊢
  obtain ⟨hns, hname, hx⟩ := h
  exact ⟨⟨hns, hname, ha.trans hb.symm⟩, hx⟩

theorem ShapeId.withMember_ne {a b : ShapeId} {x : String} (hb : b.member = none) :
    a.withMember x ≠ b := by
  intro h
  rw [← h] at hb
  cases hb

theorem ShapeId.container_withMember (h : n.member = none) (x : String) :
    (n.withMember x).container = n := by
  cases n
  simp only [withMember, container, mk.injEq] at h ⊢
  exact ⟨trivial, trivial, h.symm⟩

theorem ShapeKind.mapMembers_congr {f g : ShapeId → ShapeId} {kind : ShapeKind}
    (h : ∀ x ∈ kind.ownedMembers, f x = g x) : kind.mapMembers f = kind.mapMembers g := by
  cases kind with
  | «structure» members => exact congrArg _ (List.map_congr_left h)
  | union members => exact congrArg _ (List.map_congr_left h)
  | list item => exact congrArg _ (h item List.mem_cons_self)
  | map key value =>
    simp only [mapMembers, map.injEq]
    exact ⟨h key List.mem_cons_self, h value (List.mem_cons_of_mem _ List.mem_cons_self)⟩
  | _ => rfl

theorem Shape.mem_ownedMembers (h : i ∈ s.memberIds) : i ∈ s.kind.ownedMembers := by
  rw [memberIds] at h
  split at h
  · next hk => rwa [hk]
  · next hk => rwa [hk]
  · cases h

theorem Model.LiveMember.get? (h : m.LiveMember i member) : m.get? i = some member := by
  obtain ⟨_, _, _, _, _, _, hi⟩ := h
  exact hi

namespace Extraction

variable {e e' : Extract} {es : List Extract} {other : Shape}

/-- The extracts of a whole run over a model. -/
structure Result (m : Model) (es : List Extract) : Prop where
  sound : ∀ {e}, e ∈ es → ∃ i member target, m.Site i member ∧ Extracted m member target e
  complete : ∀ {i member}, m.Site i member → ∃ e ∈ es, ∃ target, Extracted m member target e
  nodup : (es.map (·.shape.id)).Nodup

theorem visitRoots_result (hk : m.Keyed) {st : State} (h : visitRoots m {} (roots m) = .ok st) :
    Result m st.extracts := by
  obtain ⟨found, ms, hw, hms, hv⟩ := visitRoots_eq_ok hk h
  obtain ⟨es, hes, hall, hnodup, -⟩ := visitMembers_eq_ok hv
  have hes : st.extracts = es := hes
  have hlive (member : Shape) : member ∈ ms ↔ ∃ i, m.LiveMember i member := by
    rw [hms member]
    constructor
    · rintro ⟨s, hs, hst, x, hx, hm⟩
      obtain ⟨id, hid, root, hroot, hr⟩ := hw.mem_found.mp hs
      exact ⟨x, id, s, ⟨root, mem_roots.mp hroot, hr⟩, hid, hst, hx, hm⟩
    · rintro ⟨i, id, s, ⟨root, hroot, hr⟩, hid, hst, hi, hm⟩
      exact ⟨s, hw.mem_found.mpr ⟨id, hid, root, mem_roots.mpr hroot, hr⟩, hst, i, hi, hm⟩
  rw [hes]
  refine ⟨?_, ?_, hnodup⟩
  · intro e he
    obtain ⟨k, hk', rfl⟩ := List.mem_iff_getElem.mp he
    have hlen : k < (ms.filter (·.traits.isConstrained)).length := by
      rw [hall.length_eq]
      exact hk'
    obtain ⟨hmem, hc⟩ := List.mem_filter.mp (List.getElem_mem hlen)
    obtain ⟨i, hi⟩ := (hlive _).mp hmem
    obtain ⟨target, ht⟩ := hall.get hlen hk'
    exact ⟨i, _, target, ⟨hi, hc⟩, ht⟩
  · intro i member hsite
    have hmem : member ∈ ms.filter (·.traits.isConstrained) :=
      List.mem_filter.mpr ⟨(hlive _).mpr ⟨i, hsite.1⟩, hsite.2⟩
    obtain ⟨k, hk', rfl⟩ := List.mem_iff_getElem.mp hmem
    have hlen : k < es.length := by
      rw [← hall.length_eq]
      exact hk'
    obtain ⟨target, ht⟩ := hall.get hk' hlen
    exact ⟨_, List.getElem_mem hlen, target, ht⟩

/-- A run that succeeds puts its extracts into the model, which stays closed. -/
theorem extractConstraints_eq_ok (hk : m.Keyed) (hc : m.Closed)
    (h : m.extractConstraints = .ok m') :
    ∃ es, Result m es ∧ m' = m.insertAll (es.flatMap Extract.shapes) ∧ m'.Closed := by
  obtain ⟨st, hst, h⟩ := Outcome.bind_eq_ok.mp h
  refine ⟨st.extracts, visitRoots_result hk hst, ?_⟩
  split at h
  · next hnil =>
    cases h
    rw [List.isEmpty_iff.mp hnil]
    exact ⟨rfl, hc⟩
  · obtain ⟨u, hval, h⟩ := Outcome.bind_eq_ok.mp h
    cases h
    exact ⟨rfl, Model.validate_eq_ok.mp hval⟩

theorem Result.eq_of_shape_id (hr : Result m es) (he : e ∈ es) (he' : e' ∈ es)
    (h : e.shape.id = e'.shape.id) : e = e' :=
  List.inj_on_of_nodup_map hr.nodup he he' h

theorem mem_shapes : s ∈ es.flatMap Extract.shapes ↔
    ∃ e ∈ es, s = e.shape ∨ s ∈ e.members ∨ s = e.member := by
  simp only [List.mem_flatMap, Extract.shapes, List.mem_cons, List.mem_append, List.not_mem_nil,
    or_false, or_assoc]

theorem Extracted.member_id (hk : m.Keyed) (hi : m.get? i = some member)
    (h : Extracted m member target e) :
    e.member =
      { id := i, kind := .member e.shape.id, traits := member.traits.withoutConstraints } := by
  obtain ⟨t, hkind, -⟩ := h.target_eq
  have hid := hk hi
  rw [h.member_eq]
  simp only [Shape.retarget, Shape.withTraits, hkind, ShapeKind.retarget, hid]

section

variable (hw : m.WellFormed) (h : Extracted m member target e)
include hw h

theorem Extracted.target_get? : m.get? target.id = some target := by
  obtain ⟨t, -, ht⟩ := h.target_eq
  cases hw.built.keyed ht
  exact ht

theorem Extracted.shape_kind :
    e.shape.kind = target.kind.mapMembers (·.under e.shape.id) := by
  rw [h.shape_eq]
  refine ShapeKind.mapMembers_congr fun x hx => ?_
  obtain ⟨name, -, -, rfl, -, -⟩ := hw.owned (h.target_get? hw) hx
  rw [← h.shape_eq]
  simp only [ShapeId.withMember, ShapeId.under]

theorem Extracted.mem_members : s ∈ e.members ↔
    ∃ x original, target.id.withMember x ∈ target.kind.ownedMembers ∧
      m.get? (target.id.withMember x) = some original ∧
      s = { original with id := e.shape.id.withMember x } := by
  have hcopy {x original} (hx : x ∈ target.kind.ownedMembers) (ho : m.get? x = some original)
      (name : String) (hname : x = target.id.withMember name) :
      original.copyTo (e.shape.id.withMember original.memberName) =
        { original with id := e.shape.id.withMember name } := by
    obtain ⟨-, member, t, -, hm, hk⟩ := hw.owned (h.target_get? hw) hx
    cases ho.symm.trans hm
    have hid := hw.built.keyed ho
    simp only [Shape.copyTo, Shape.memberName, hid, hname, ShapeId.withMember, hk,
      ShapeKind.mapMembers, Option.getD_some]
  constructor
  · intro hs
    obtain ⟨k, hk, rfl⟩ := List.mem_iff_getElem.mp hs
    have hlen : k < target.kind.ownedMembers.length := by
      rw [h.members_eq.length_eq]
      exact hk
    have hx := List.getElem_mem hlen
    obtain ⟨name, -, -, hname, -, -⟩ := hw.owned (h.target_get? hw) hx
    obtain ⟨original, ho, heq⟩ := h.members_eq.get hlen hk
    have ho : m.get? target.kind.ownedMembers[k] = some original := ho
    refine ⟨name, original, hname ▸ hx, hname ▸ ho, ?_⟩
    rw [← hcopy hx ho name hname]
    exact heq
  · rintro ⟨name, original, hx, ho, rfl⟩
    obtain ⟨k, hk, hkx⟩ := List.mem_iff_getElem.mp hx
    have hlen : k < e.members.length := by
      rw [← h.members_eq.length_eq]
      exact hk
    obtain ⟨original', ho', heq⟩ := h.members_eq.get hk hlen
    have ho' : m.get? target.kind.ownedMembers[k] = some original' := ho'
    rw [hkx, ho] at ho'
    cases ho'
    rw [← hcopy hx ho name rfl, ← heq]
    exact List.getElem_mem hlen

theorem Extracted.members_root (hs : s ∈ e.members) :
    ∃ x, s.id = e.shape.id.withMember x := by
  obtain ⟨x, original, -, -, rfl⟩ := (h.mem_members hw).mp hs
  exact ⟨x, rfl⟩

/-- No id below an extracted shape is in use before the run. -/
theorem Extracted.get?_withMember (x : String) : m.get? (e.shape.id.withMember x) = none := by
  rw [← Model.contains_eq_false, ← Bool.not_eq_true]
  intro hx
  have hroot := hw.rooted hx
  rw [ShapeId.container_withMember h.root, Model.contains_eq_false.mpr h.fresh] at hroot
  cases hroot

end

section

variable (hw : m.WellFormed) (hr : Result m es)
include hw hr

theorem Result.exists_member (he : e ∈ es) : ∃ s, m.get? e.member.id = some s := by
  obtain ⟨i, member, target, hsite, hx⟩ := hr.sound he
  rw [hx.member_id hw.built.keyed hsite.1.get?]
  exact ⟨member, hsite.1.get?⟩

theorem Result.get?_shape (he : e ∈ es) :
    (m.insertAll (es.flatMap Extract.shapes)).get? e.shape.id = some e.shape := by
  obtain ⟨i, member, target, -, hx⟩ := hr.sound he
  refine Model.get?_insertAll_of_mem m (mem_shapes.mpr ⟨e, he, .inl rfl⟩) fun t ht hid => ?_
  obtain ⟨e', he', rfl | ht | rfl⟩ := mem_shapes.mp ht
  · rw [hr.eq_of_shape_id he' he hid]
  · obtain ⟨i', member', target', -, hx'⟩ := hr.sound he'
    obtain ⟨x, hid'⟩ := hx'.members_root hw ht
    exact (ShapeId.withMember_ne hx.root (hid'.symm.trans hid)).elim
  · obtain ⟨s, hs⟩ := hr.exists_member hw he'
    rw [hid, hx.fresh] at hs
    cases hs

theorem Result.get?_copy (he : e ∈ es) (hs : s ∈ e.members) :
    (m.insertAll (es.flatMap Extract.shapes)).get? s.id = some s := by
  obtain ⟨i, member, target, -, hx⟩ := hr.sound he
  obtain ⟨x, original, -, ho, rfl⟩ := (hx.mem_members hw).mp hs
  refine Model.get?_insertAll_of_mem m (mem_shapes.mpr ⟨e, he, .inr (.inl hs)⟩) fun t ht hid => ?_
  obtain ⟨e', he', rfl | ht | rfl⟩ := mem_shapes.mp ht
  · obtain ⟨i', member', target', -, hx'⟩ := hr.sound he'
    exact (ShapeId.withMember_ne hx'.root hid.symm).elim
  · obtain ⟨i', member', target', -, hx'⟩ := hr.sound he'
    obtain ⟨x', hid'⟩ := hx'.members_root hw ht
    have heq := (ShapeId.withMember_inj hx'.root hx.root (hid'.symm.trans hid)).1
    cases hr.eq_of_shape_id he' he heq
    obtain ⟨y, original', -, ho', rfl⟩ := (hx.mem_members hw).mp ht
    have hxy := (ShapeId.withMember_inj hx.root hx.root hid).2
    rw [hxy, ho] at ho'
    cases ho'
    rw [hxy]
  · obtain ⟨s, hused⟩ := hr.exists_member hw he'
    rw [hid, hx.get?_withMember hw x] at hused
    cases hused

theorem Result.get?_new (hid : m.get? id = none)
    (hs : (m.insertAll (es.flatMap Extract.shapes)).get? id = some s) :
    ∃ e ∈ es, s.id = id ∧ (s = e.shape ∨ s ∈ e.members) := by
  rcases Model.get?_insertAll_cases hs with ⟨hmem, hsid⟩ | hm
  · obtain ⟨e, he, hcase⟩ := mem_shapes.mp hmem
    refine ⟨e, he, hsid, ?_⟩
    rcases hcase with h | h | h
    · exact .inl h
    · exact .inr h
    · obtain ⟨t, ht⟩ := hr.exists_member hw he
      rw [← h, hsid, hid] at ht
      cases ht
  · rw [hid] at hm
    cases hm

/-- An id of the model is either left alone, or a constrained member that some extract moves. -/
theorem Result.get?_old (hid : m.get? id = some s) :
    (m.insertAll (es.flatMap Extract.shapes)).get? id = some s ∧ ¬ m.Site id s ∨
      ∃ e ∈ es, ∃ target, Extracted m s target e ∧ m.Site id s ∧
        (m.insertAll (es.flatMap Extract.shapes)).get? id = some e.member := by
  have hcase {t : Shape} (ht : t ∈ es.flatMap Extract.shapes) (htid : t.id = id) :
      ∃ e ∈ es, ∃ target, Extracted m s target e ∧ m.Site id s ∧ t = e.member := by
    obtain ⟨e, he, rfl | ht | rfl⟩ := mem_shapes.mp ht
    · obtain ⟨i, member, target, -, hx⟩ := hr.sound he
      have hfresh := hx.fresh
      rw [htid, hid] at hfresh
      cases hfresh
    · obtain ⟨i, member, target, -, hx⟩ := hr.sound he
      obtain ⟨x, hx'⟩ := hx.members_root hw ht
      have hfree := hx.get?_withMember hw x
      rw [← hx', htid, hid] at hfree
      cases hfree
    · obtain ⟨i, member, target, hsite, hx⟩ := hr.sound he
      rw [hx.member_id hw.built.keyed hsite.1.get?] at htid
      have htid : i = id := htid
      subst htid
      cases hsite.1.get?.symm.trans hid
      exact ⟨e, he, target, hx, hsite, rfl⟩
  by_cases hsite : m.Site id s
  · obtain ⟨e, he, target, hx⟩ := hr.complete hsite
    have hmem : e.member ∈ es.flatMap Extract.shapes :=
      mem_shapes.mpr ⟨e, he, .inr (.inr rfl)⟩
    have hmid : e.member.id = id := by rw [hx.member_id hw.built.keyed hid]
    have hcont := Model.contains_insertAll (es.flatMap Extract.shapes)
      (Model.contains_iff.mpr ⟨s, hid⟩)
    obtain ⟨t, ht⟩ := Model.contains_iff.mp hcont
    rw [Model.get?_insertAll] at ht
    rcases Option.or_eq_some_iff.mp ht with hf | ⟨hnone, -⟩
    · have hft := List.mem_reverse.mp (List.mem_of_find?_eq_some hf)
      have hfid : t.id = id := by simpa only [decide_eq_true_eq] using List.find?_some hf
      obtain ⟨e', he', target', hx', -, rfl⟩ := hcase hft hfid
      refine .inr ⟨e', he', target', hx', hsite, ?_⟩
      rw [Model.get?_insertAll, hf, Option.some_or]
    · have hno := List.find?_eq_none.mp hnone e.member (List.mem_reverse.mpr hmem)
      exact (hno (decide_eq_true hmid)).elim
  · refine .inl ⟨?_, hsite⟩
    rw [Model.get?_insertAll_of_notMem, hid]
    intro t ht htid
    obtain ⟨-, -, -, -, h, -⟩ := hcase ht htid
    exact hsite h

end

end Extraction

end CrateGen
