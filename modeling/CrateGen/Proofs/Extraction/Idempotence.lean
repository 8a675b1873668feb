import CrateGen.Proofs.Extraction.Lifting
import CrateGen.Proofs.Extraction.Order

namespace CrateGen

variable {m m' : Model} {id i j n r root : ShapeId} {s t member target : Shape}

theorem Model.contains_insertAll_of_mem (m : Model) {ss : List Shape} (hs : s ∈ ss) :
    (m.insertAll ss).contains s.id = true := by
  have hf : (ss.reverse.find? (·.id = s.id)).isSome := by
    simpa only [List.find?_isSome, List.mem_reverse, decide_eq_true_eq] using ⟨s, hs, rfl⟩
  obtain ⟨t, ht⟩ := Option.isSome_iff_exists.mp hf
  rw [Model.contains_iff, Model.get?_insertAll, ht]
  exact ⟨t, Option.some_or⟩

theorem ShapeKind.mem_references_mapMembers {kind : ShapeKind} {a : ShapeId}
    (h : a.withMember x ∈ kind.ownedMembers) :
    n.withMember x ∈ (kind.mapMembers (·.under n)).references := by
  rcases kind.references_mapMembers (·.under n) with ⟨-, heq⟩ | ⟨hnil, -⟩
  · rw [heq]
    exact List.mem_map.mpr ⟨a.withMember x, h, rfl⟩
  · rw [hnil] at h
    cases h

theorem Shape.kind_of_isStructure (h : s.isStructure = true) : s.kind = .structure s.memberIds := by
  rw [Shape.isStructure] at h
  split at h
  · next members hk => rw [Shape.memberIds, hk]
  · cases h

theorem Model.Live.tail (h : m.Live id) (hs : m.get? id = some s) (hr : r ∈ s.references) :
    m.Live r := by
  obtain ⟨root, hroot, hreach⟩ := h
  exact ⟨root, hroot, hreach.tail ⟨s, hs, hr⟩⟩

theorem Model.IsRoot.live (h : m.IsRoot root) : m.Live root :=
  ⟨root, h, .refl⟩

theorem Model.Site.live (h : m.Site i member) : m.Live i := by
  obtain ⟨⟨id, s, hlive, hs, -, hi, -⟩, -⟩ := h
  exact hlive.tail hs (Shape.mem_references hi)

namespace Extraction

theorem visitMembers_of_not_constrained (st : State) {ms : List Shape}
    (h : ∀ member ∈ ms, member.traits.isConstrained = false) :
    visitMembers m st ms = .ok st := by
  induction ms with
  | nil => rfl
  | cons member ms ih =>
    rw [visitMembers, extract_of_not_constrained (h member List.mem_cons_self)]
    exact ih fun x hx => h x (List.mem_cons_of_mem _ hx)

end Extraction

theorem Model.extractConstraints_eq_self (hk : m.Keyed) (hc : m.Closed) :
    m.extractConstraints = .ok m ↔ ∀ i member, ¬ m.Site i member := by
  constructor
  · intro h i member hsite
    obtain ⟨es, hr, heq, -⟩ := Extraction.extractConstraints_eq_ok hk hc h
    obtain ⟨e, he, target, hx⟩ := hr.complete hsite
    have hmem : e.shape ∈ es.flatMap Extraction.Extract.shapes :=
      Extraction.mem_shapes.mpr ⟨e, he, .inl rfl⟩
    have hin := m.contains_insertAll_of_mem hmem
    rw [← heq, Model.contains_eq_false.mpr hx.fresh] at hin
    cases hin
  · intro h
    obtain ⟨found, visited, members, hfound, hmembers, heq⟩ := Extraction.visitRoots_roots hc
    have hplain : ∀ member ∈ members, member.traits.isConstrained = false := by
      intro member hmember
      obtain ⟨i, hlive⟩ := hmembers.live hfound hmember
      exact Bool.eq_false_iff.mpr fun hcon => h i member ⟨hlive, hcon⟩
    rw [Model.extractConstraints, heq, Extraction.visitMembers_of_not_constrained {} hplain]
    rfl

/-- Some constrained member has a target that is a structure with a constrained member. -/
def Model.NestsConstraints (m : Model) : Prop :=
  ∃ i member target x inner, m.Site i member ∧ m.memberTarget member = .ok target ∧
    target.isStructure = true ∧ x ∈ target.memberIds ∧ m.get? x = some inner ∧
    inner.traits.isConstrained = true

namespace Extraction

theorem IsLift.copy (hl : IsLift m m' i member target n)
    (hs : m'.get? (n.withMember x) = some s) :
    ∃ original, target.id.withMember x ∈ target.kind.ownedMembers ∧
      m.get? (target.id.withMember x) = some original ∧
      s = { original with id := n.withMember x } := by
  rw [hl.copies] at hs
  split at hs
  · next howned =>
    obtain ⟨original, ho, rfl⟩ := Option.map_eq_some_iff.mp hs
    exact ⟨original, howned, ho, rfl⟩
  · cases hs

section

variable (hw : m.WellFormed) (hl : IsLift m m' i member target n)
include hw hl

theorem IsLift.target_get? : m.get? target.id = some target := by
  obtain ⟨t, -, ht⟩ := hl.target_eq
  cases hw.built.keyed ht
  exact ht

theorem IsLift.target_live (hsite : m.Site i member) : m.Live target.id := by
  obtain ⟨t, hk, ht⟩ := hl.target_eq
  cases hw.built.keyed ht
  refine hsite.live.tail hsite.1.get? ?_
  rw [Shape.references, hk]
  exact List.mem_singleton.mpr rfl

theorem IsLift.mem_references (hs : m'.get? n = some s) (hr : r ∈ s.references) :
    (∃ x, target.id.withMember x ∈ target.kind.ownedMembers ∧ r = n.withMember x) ∨
      r ∈ target.references := by
  cases hs.symm.trans hl.shape
  rcases target.kind.references_mapMembers (·.under n) with ⟨-, heq⟩ | ⟨-, heq⟩
  · rw [Shape.references, heq] at hr
    obtain ⟨y, hy, rfl⟩ := List.mem_map.mp hr
    obtain ⟨x, -, -, rfl, -, -⟩ := hw.owned (hl.target_get? hw) hy
    exact .inl ⟨x, hy, rfl⟩
  · rw [Shape.references, heq] at hr
    exact .inr hr

theorem IsLift.not_contains (x : String) : m.contains (n.withMember x) = false := by
  rw [← Bool.not_eq_true]
  intro hx
  have hroot := hw.rooted hx
  rw [ShapeId.container_withMember hl.root, Model.contains_eq_false.mpr hl.fresh] at hroot
  cases hroot

/-- A live copy of a structure shows the constraints of its members again. -/
theorem IsLift.site {x : ShapeId} {inner : Shape} (hn : m'.Live n)
    (hst : target.isStructure = true) (hx : x ∈ target.memberIds) (hget : m.get? x = some inner)
    (hcon : inner.traits.isConstrained = true) : ∃ j t, m'.Site j t := by
  have hkind := Shape.kind_of_isStructure hst
  have howned := Shape.mem_ownedMembers hx
  obtain ⟨name, -, -, rfl, -, -⟩ := hw.owned (hl.target_get? hw) howned
  have hcopy := hl.copies name
  rw [if_pos howned, hget] at hcopy
  have hshape := hl.shape
  rw [hkind] at hshape
  refine ⟨n.withMember name, _, ⟨n, _, hn, hshape, rfl, ?_, hcopy⟩, hcon⟩
  exact List.mem_map.mpr ⟨_, hx, rfl⟩

end

section

variable (hw : m.WellFormed) (hl : Lifting m m')
include hl

theorem Lifting.kept_of_ne (hs : m.get? id = some s) (h : ∀ t, s.kind ≠ .member t) :
    m'.get? id = some s := by
  refine hl.kept hs fun hsite => ?_
  obtain ⟨n, target, hlift, -⟩ := hl.moved hsite
  obtain ⟨t, hk, -⟩ := hlift.target_eq
  exact h t hk

theorem Lifting.live_lift (hsite : m.Site i member) (hlive : m'.Live i) :
    ∃ n target, IsLift m m' i member target n ∧ m'.Live n := by
  obtain ⟨n, target, hlift, hget⟩ := hl.moved hsite
  exact ⟨n, target, hlift, hlive.tail hget List.mem_cons_self⟩

include hw

theorem Lifting.isRoot : m'.IsRoot id ↔ m.IsRoot id := by
  constructor
  · rintro ⟨op, s, input, output, errors, hs, hk, hin⟩
    cases hop : m.contains op with
    | true =>
      obtain ⟨t, ht⟩ := Model.contains_iff.mp hop
      by_cases hsite : m.Site op t
      · obtain ⟨n, target, -, hget⟩ := hl.moved hsite
        cases hs.symm.trans hget
        cases hk
      · cases hs.symm.trans (hl.kept ht hsite)
        exact ⟨op, s, input, output, errors, ht, hk, hin⟩
    | false =>
      obtain ⟨i, member, target, n, hsite, hlift, hcase⟩ :=
        hl.new (Model.contains_iff.mpr ⟨s, hs⟩) hop
      rcases hcase with rfl | ⟨x, hx, rfl⟩
      · cases hs.symm.trans hlift.shape
        refine ⟨target.id, target, input, output, errors, hlift.target_get? hw, ?_, hin⟩
        cases htk : target.kind <;> rw [htk] at hk <;> cases hk
        rfl
      · obtain ⟨original, howned, ho, rfl⟩ := hlift.copy hs
        obtain ⟨-, t, r, -, ht, hr⟩ := hw.owned (hlift.target_get? hw) howned
        cases ho.symm.trans ht
        cases hk.symm.trans hr
  · rintro ⟨op, s, input, output, errors, hs, hk, hin⟩
    refine ⟨op, s, input, output, errors, hl.kept_of_ne hs fun t ht => ?_, hk, hin⟩
    cases hk.symm.trans ht

theorem Lifting.live_of_live (h : m'.Live id) (hid : m.contains id = true) : m.Live id := by
  obtain ⟨root, hroot, hreach⟩ := h
  induction hreach with
  | refl => exact ((hl.isRoot hw).mp hroot).live
  | @tail b c _ hstep ih =>
    obtain ⟨s, hs, hc⟩ := hstep
    cases hb : m.contains b with
    | true =>
      obtain ⟨t, ht⟩ := Model.contains_iff.mp hb
      by_cases hsite : m.Site b t
      · obtain ⟨n, target, hlift, hget⟩ := hl.moved hsite
        cases hs.symm.trans hget
        cases List.mem_singleton.mp hc
        rw [Model.contains_eq_false.mpr hlift.fresh] at hid
        cases hid
      · cases hs.symm.trans (hl.kept ht hsite)
        exact (ih hb).tail ht hc
    | false =>
      obtain ⟨i, member, target, n, hsite, hlift, hcase⟩ :=
        hl.new (Model.contains_iff.mpr ⟨s, hs⟩) hb
      have hlive := hlift.target_live hw hsite
      rcases hcase with rfl | ⟨x, hx, rfl⟩
      · rcases hlift.mem_references hw hs hc with ⟨x, -, rfl⟩ | href
        · rw [hlift.not_contains hw] at hid
          cases hid
        · exact hlive.tail (hlift.target_get? hw) href
      · obtain ⟨original, howned, ho, rfl⟩ := hlift.copy hs
        have howned := hlive.tail (hlift.target_get? hw) (ShapeKind.mem_references howned)
        exact howned.tail ho hc

/-- An id that is live afterwards, or whose copy is. -/
def Covered (m m' : Model) (id : ShapeId) : Prop :=
  m'.Live id ∨ ∃ i member target n, m.Site i member ∧ IsLift m m' i member target n ∧ m'.Live n ∧
    (id = target.id ∨
      ∃ x, id = target.id.withMember x ∧ target.id.withMember x ∈ target.kind.ownedMembers)

theorem Lifting.covered_of_live (h : m.Live id) : Covered m m' id := by
  obtain ⟨root, hroot, hreach⟩ := h
  induction hreach with
  | refl => exact .inl ((hl.isRoot hw).mpr hroot).live
  | @tail b c _ hstep ih =>
    obtain ⟨s, hs, hc⟩ := hstep
    rcases ih with hb | ⟨i, member, target, n, hsite, hlift, hn, rfl | ⟨x, rfl, hx⟩⟩
    · by_cases hsite : m.Site b s
      · obtain ⟨n, target, hlift, hn⟩ := hl.live_lift hsite hb
        obtain ⟨t, hk, ht⟩ := hlift.target_eq
        rw [Shape.references, hk] at hc
        cases List.mem_singleton.mp hc
        exact .inr ⟨b, s, target, n, hsite, hlift, hn, .inl (hw.built.keyed ht).symm⟩
      · exact .inl (hb.tail (hl.kept hs hsite) hc)
    · cases hs.symm.trans (hlift.target_get? hw)
      rcases s.kind.references_mapMembers (·.under n) with ⟨heq, -⟩ | ⟨-, heq⟩
      · rw [Shape.references, heq] at hc
        obtain ⟨x, -, -, rfl, -, -⟩ := hw.owned hs hc
        exact .inr ⟨i, member, s, n, hsite, hlift, hn, .inr ⟨x, rfl, hc⟩⟩
      · refine .inl (hn.tail hlift.shape ?_)
        rw [Shape.references, heq]
        exact hc
    · have hcopy := hlift.copies x
      rw [if_pos hx, hs] at hcopy
      exact .inl ((hn.tail hlift.shape (ShapeKind.mem_references_mapMembers hx)).tail hcopy hc)

/-- The members of a live structure that there was are free of constraints. -/
theorem Lifting.not_constrained (hlive : m.Live id) (hs : m.get? id = some s)
    (hst : s.isStructure = true) (hj : j ∈ s.memberIds) (ht : m'.get? j = some t) :
    t.traits.isConstrained = false := by
  obtain ⟨-, member, -, -, hmem, -⟩ := hw.owned hs (Shape.mem_ownedMembers hj)
  have hlive' : m.LiveMember j member := ⟨id, s, hlive, hs, hst, hj, hmem⟩
  cases hcon : member.traits.isConstrained with
  | true =>
    obtain ⟨n, target, -, hget⟩ := hl.moved ⟨hlive', hcon⟩
    cases ht.symm.trans hget
    exact Traits.isConstrained_withoutConstraints _
  | false =>
    have hno : ¬ m.Site j member := fun hsite => by
      rw [hsite.2] at hcon
      cases hcon
    cases ht.symm.trans (hl.kept hmem hno)
    exact hcon

theorem Lifting.nests_of_site (hsite : m'.Site j t) : m.NestsConstraints := by
  obtain ⟨⟨id, s, hlive, hs, hst, hj, ht⟩, hcon⟩ := hsite
  have hkind := Shape.kind_of_isStructure hst
  cases hid : m.contains id with
  | true =>
    obtain ⟨s', hs'⟩ := Model.contains_iff.mp hid
    by_cases hsite : m.Site id s'
    · obtain ⟨n, target, -, hget⟩ := hl.moved hsite
      cases hs.symm.trans hget
      cases hst
    · cases hs.symm.trans (hl.kept hs' hsite)
      rw [hl.not_constrained hw (hl.live_of_live hw hlive hid) hs' hst hj ht] at hcon
      cases hcon
  | false =>
    obtain ⟨i, member, target, n, hsite, hlift, hcase⟩ :=
      hl.new (Model.contains_iff.mpr ⟨s, hs⟩) hid
    rcases hcase with rfl | ⟨x, hx, rfl⟩
    · cases hs.symm.trans hlift.shape
      have htarget : target.isStructure = true := by
        cases htk : target.kind <;> rw [Shape.isStructure, htk] at hst ⊢ <;> cases hst
      have htk := Shape.kind_of_isStructure htarget
      rw [htk] at hj
      obtain ⟨y, hy, rfl⟩ := List.mem_map.mp hj
      obtain ⟨name, -, -, rfl, -, -⟩ :=
        hw.owned (hlift.target_get? hw) (Shape.mem_ownedMembers hy)
      obtain ⟨original, -, ho, rfl⟩ := hlift.copy ht
      exact ⟨i, member, target, _, original, hsite, Model.memberTarget_eq_ok.mpr hlift.target_eq,
        htarget, hy, ho, hcon⟩
    · obtain ⟨original, howned, ho, rfl⟩ := hlift.copy hs
      obtain ⟨-, u, r, -, hu, hr⟩ := hw.owned (hlift.target_get? hw) howned
      cases ho.symm.trans hu
      cases hkind.symm.trans hr

theorem Lifting.site_of_nests (h : m.NestsConstraints) : ∃ j t, m'.Site j t := by
  obtain ⟨i, member, target, x, inner, hsite, htarget, hst, hx, hget, hcon⟩ := h
  obtain ⟨⟨id, s, hlive, hs, hst', hi, hmem⟩, hcon'⟩ := id hsite
  have hkind := Shape.kind_of_isStructure hst'
  rcases hl.covered_of_live hw hlive with hid | ⟨j, t, target', n, -, hlift, hn, hcase⟩
  · have hkept := hl.kept_of_ne hs fun u hu => by cases hkind.symm.trans hu
    obtain ⟨n, target', hlift, hn⟩ :=
      hl.live_lift hsite (hid.tail hkept (Shape.mem_references hi))
    cases htarget.symm.trans (Model.memberTarget_eq_ok.mpr hlift.target_eq)
    exact hlift.site hw hn hst hx hget hcon
  · rcases hcase with rfl | ⟨y, rfl, hy⟩
    · cases hs.symm.trans (hlift.target_get? hw)
      -- the structure itself was copied, so the copy of the member is the one that shows
      exact hlift.site hw hn hst' hi hmem hcon'
    · obtain ⟨-, u, r, -, hu, hr⟩ := hw.owned (hlift.target_get? hw) hy
      cases hs.symm.trans hu
      cases hkind.symm.trans hr

end

end Extraction

/-- A second run changes nothing exactly when the first leaves no constrained member of a live
structure; for a well-formed model, when it gave no structure with such members a copy. -/
theorem Model.extractConstraints_again (hb : m.Built) (h : m.extractConstraints = .ok m') :
    (m'.extractConstraints = .ok m' ↔ ∀ i member, ¬ m'.Site i member) ∧
      (m.WellFormed → (m'.extractConstraints = .ok m' ↔ ¬ m.NestsConstraints)) := by
  obtain ⟨es, hr, rfl, hc⟩ := Extraction.extractConstraints_eq_ok hb.keyed hb.closed h
  have hself := Model.extractConstraints_eq_self (Model.Keyed.insertAll hb.keyed _) hc
  refine ⟨hself, fun hw => hself.trans ⟨fun hno hnest => ?_, fun hno i member hsite => ?_⟩⟩
  · obtain ⟨j, t, hsite⟩ := (hr.lifting hw).site_of_nests hw hnest
    exact hno j t hsite
  · exact hno ((hr.lifting hw).nests_of_site hw hsite)

theorem Model.extractConstraints_again_nested :
    ∃ m', Extraction.nested.Built ∧ Extraction.nested.extractConstraints = .ok m' ∧
      (m'.extractConstraints = .ok m' ↔ ∀ i member, ¬ m'.Site i member) ∧
      (Extraction.nested.WellFormed →
        (m'.extractConstraints = .ok m' ↔ ¬ Extraction.nested.NestsConstraints)) := by
  obtain ⟨m', h⟩ := Outcome.exists_of_isSome Extraction.nested_checked.2.2.2.1
  exact ⟨m', Extraction.nested_built, h,
    Model.extractConstraints_again Extraction.nested_built h⟩

theorem Model.extractConstraints_not_idempotent :
    ¬ ∀ m m' : Model, m.Built → m.extractConstraints = .ok m' →
      m'.extractConstraints = .ok m' := by
  intro h
  obtain ⟨-, -, -, hok, hne⟩ := Extraction.nested_checked
  obtain ⟨m', hm⟩ := Outcome.exists_of_isSome hok
  have hagain := h _ m' Extraction.nested_built hm
  rw [hm, Except.bind, hagain] at hne
  exact hne rfl

end CrateGen
