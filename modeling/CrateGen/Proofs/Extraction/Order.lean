import CrateGen.Proofs.Extraction.Result
import CrateGen.Proofs.Model.Session

/-!
The order in which constrained members are visited, written down apart from the run. A run over a
closed model is one visit of the members in that order.
-/

namespace CrateGen

variable {m : Model} {id : ShapeId} {s member : Shape}

/-- Either a kind points at its members only, and keeps to that, or it has no members. -/
theorem ShapeKind.references_mapMembers (kind : ShapeKind) (f : ShapeId → ShapeId) :
    (kind.references = kind.ownedMembers ∧
      (kind.mapMembers f).references = kind.ownedMembers.map f) ∨
    (kind.ownedMembers = [] ∧ kind.mapMembers f = kind) := by
  cases kind with
  | «structure» | union | list | map => exact .inl ⟨rfl, rfl⟩
  | enum | primitive | operation | service | member => exact .inr ⟨rfl, rfl⟩

theorem ShapeKind.mem_references {kind : ShapeKind} (h : id ∈ kind.ownedMembers) :
    id ∈ kind.references := by
  rcases kind.references_mapMembers fun x => x with ⟨heq, -⟩ | ⟨hnil, -⟩
  · rw [heq]
    exact h
  · rw [hnil] at h
    cases h

theorem Shape.mem_references (h : x ∈ s.memberIds) : x ∈ s.references :=
  ShapeKind.mem_references (mem_ownedMembers h)

theorem Model.Closed.exists_membersOf (hc : m.Closed) (hs : m.get? id = some s) :
    ∃ members, m.membersOf s = .ok members ∧ m.Listed s.memberIds members := by
  obtain ⟨members, hmembers⟩ : ∃ members, m.membersOf s = .ok members := by
    apply Outcome.exists_mapM_eq_ok
    intro x hx
    obtain ⟨t, ht⟩ := hc hs (Shape.mem_references hx)
    exact ⟨t, Model.expect_eq_ok.mpr ht⟩
  exact ⟨members, hmembers,
    (Outcome.mapM_eq_ok.mp hmembers).imp fun _ _ => Model.expect_eq_ok.mp⟩

theorem Model.WellFormed.exists_target {i : ShapeId} (hw : m.WellFormed) (hs : m.get? id = some s)
    (hi : i ∈ s.memberIds) (hm : m.get? i = some member) : ∃ target, m.Targets member target := by
  obtain ⟨-, t, r, -, ht, hk⟩ := hw.owned hs (Shape.mem_ownedMembers hi)
  cases hm.symm.trans ht
  have hr : r ∈ member.references := by
    rw [Shape.references, hk]
    exact List.mem_singleton.mpr rfl
  obtain ⟨target, htarget⟩ := hw.built.closed hm hr
  exact ⟨target, r, hk, htarget⟩

def Shape.ends (s : Shape) : List ShapeId :=
  match s.kind with
  | .operation input output _ => input.toList ++ output.toList
  | _ => []

namespace Extraction

/-- The operations of a model, in the order of their ids. -/
structure OperationOrder (m : Model) (operations : List Shape) : Prop where
  ascending : operations.Pairwise fun s t => compare s.id t.id = .lt
  mem_iff : ∀ s, s ∈ operations ↔ s.isOperation = true ∧ m.get? s.id = some s

/-- The members of the structures of a list, in order. -/
def MembersInOrder (m : Model) (ss members : List Shape) : Prop :=
  m.Listed ((ss.filter Shape.isStructure).flatMap Shape.memberIds) members

/-- The constrained members of structures in the order of a visit: depth first from the input and
then the output of each operation, and in the order of their declaration. -/
def SiteOrder (m : Model) (sites : List Shape) : Prop :=
  ∃ operations found visited members, OperationOrder m operations ∧
    DepthFirst m (operations.flatMap Shape.ends) ∅ found visited ∧
    MembersInOrder m found members ∧ sites = members.filter (·.traits.isConstrained)

/-- Shapes in the order of their ids are given by which they are. -/
theorem eq_of_ascending {ss ss' : List Shape}
    (h : ss.Pairwise fun s t => compare s.id t.id = .lt)
    (h' : ss'.Pairwise fun s t => compare s.id t.id = .lt) (hmem : ∀ s, s ∈ ss ↔ s ∈ ss') :
    ss = ss' := by
  have hnodup {ss : List Shape} (hss : ss.Pairwise fun s t => compare s.id t.id = .lt) :
      ss.Nodup := by
    apply hss.imp
    intro s t hlt heq
    rw [heq, Std.ReflOrd.compare_self] at hlt
    cases hlt
  have hperm : ss.Perm ss' := (List.perm_ext_iff_of_nodup (hnodup h) (hnodup h')).mpr hmem
  apply hperm.eq_of_pairwise _ h h'
  intro s t _ _ hst hts
  have hswap : compare s.id t.id = (compare t.id s.id).swap := Std.OrientedCmp.eq_swap
  rw [hst, hts] at hswap
  cases hswap

theorem OperationOrder.unique {operations operations' : List Shape}
    (h : OperationOrder m operations) (h' : OperationOrder m operations') :
    operations = operations' :=
  eq_of_ascending h.ascending h'.ascending fun s => (h.mem_iff s).trans (h'.mem_iff s).symm

theorem MembersInOrder.append {ss ss' members members' : List Shape}
    (h : MembersInOrder m ss members) (h' : MembersInOrder m ss' members') :
    MembersInOrder m (ss ++ ss') (members ++ members') := by
  rw [MembersInOrder, List.filter_append, List.flatMap_append]
  exact List.rel_append h h'

theorem SiteOrder.unique {sites sites' : List Shape} (h : SiteOrder m sites)
    (h' : SiteOrder m sites') : sites = sites' := by
  obtain ⟨operations, found, visited, members, hoperations, hfound, hmembers, rfl⟩ := h
  obtain ⟨operations', found', visited', members', hoperations', hfound', hmembers', rfl⟩ := h'
  cases hoperations.unique hoperations'
  obtain ⟨rfl, -⟩ := hfound.unique hfound'
  rw [Model.Listed.unique hmembers hmembers']

theorem operationOrder (hk : m.Keyed) : OperationOrder m m.operations where
  ascending := (Model.toList_ascending hk).filter _
  mem_iff s := by
    rw [Model.operations, List.mem_filter, hk.mem_toList, and_comm]

/-! ## A run in that order -/

theorem visitMembers_visit (st : State) (visited : ShapeIds) (ms : List Shape) :
    visitMembers m { st with visited } ms =
      (visitMembers m st ms).map fun st' => { st' with visited } := by
  induction ms generalizing st with
  | nil => rfl
  | cons member ms ih =>
    simp only [visitMembers]
    cases extract m st.taken member with
    | error e => rfl
    | ok found =>
      cases found with
      | none => exact ih st
      | some e =>
        exact ih { st with
          taken := st.taken.insert e.shape.id
          extracts := st.extracts ++ [e] }

theorem visitShapes_eq (hc : m.Closed) {ss : List Shape}
    (hss : ∀ s ∈ ss, ∃ id, m.get? id = some s) :
    ∃ members, MembersInOrder m ss members ∧
      ∀ st, visitShapes m st ss = visitMembers m st members := by
  induction ss with
  | nil => exact ⟨[], .nil, fun st => rfl⟩
  | cons s ss ih =>
    obtain ⟨members, hmembers, heq⟩ := ih fun t ht => hss t (List.mem_cons_of_mem _ ht)
    cases hst : s.isStructure with
    | false =>
      refine ⟨members, ?_, ?_⟩
      · rw [MembersInOrder, List.filter_cons, hst]
        exact hmembers
      · intro st
        rw [visitShapes, hst]
        exact heq st
    | true =>
      obtain ⟨id, hs⟩ := hss s List.mem_cons_self
      obtain ⟨own, hown, hlisted⟩ := hc.exists_membersOf hs
      have hhead : MembersInOrder m [s] own := by
        rw [MembersInOrder, List.filter_cons, hst, List.filter_nil, if_pos rfl,
          List.flatMap_singleton]
        exact hlisted
      refine ⟨own ++ members, hhead.append hmembers, ?_⟩
      intro st
      rw [visitShapes, if_pos hst, hown, visitMembers_append]
      exact congrArg (visitMembers m st own >>= ·) (funext heq)

/-- A run over roots visits the members of what is found depth first. -/
theorem visitRoots_eq (hc : m.Closed) (visited : ShapeIds) {rs : List ShapeId}
    (hrs : ∀ root ∈ rs, ∃ s, m.get? root = some s) :
    ∃ found visited' members, DepthFirst m rs visited found visited' ∧
      MembersInOrder m found members ∧ ∀ st, st.visited = visited →
        visitRoots m st rs =
          (visitMembers m st members).map fun st' => { st' with visited := visited' } := by
  induction rs generalizing visited with
  | nil =>
    refine ⟨[], visited, [], .nil, .nil, ?_⟩
    intro st hst
    subst hst
    rfl
  | cons root rs ih =>
    have hwalk := m.walk_isDepthFirst root visited
    obtain ⟨members, hmembers, hshapes⟩ := visitShapes_eq hc fun s hs => by
      obtain ⟨id, hid, -⟩ := hwalk.walked.finds hs
      exact ⟨id, hid⟩
    obtain ⟨found, visited', members', hrest, hmembers', heq⟩ :=
      ih (m.walk root visited).2 fun r hr => hrs r (List.mem_cons_of_mem _ hr)
    refine ⟨_, visited', members ++ members', hwalk.append hrest, hmembers.append hmembers', ?_⟩
    intro st hst
    subst hst
    obtain ⟨s, hs⟩ := hrs root List.mem_cons_self
    rw [visitRoots, Model.expect_eq_ok.mpr hs]
    change (visitShapes m { st with visited := (m.walk root st.visited).2 }
      (m.walk root st.visited).1 >>= fun st => visitRoots m st rs) = _
    rw [hshapes, visitMembers_visit, visitMembers_append]
    cases visitMembers m st members with
    | error e => rfl
    | ok st₁ =>
      change visitRoots m { st₁ with visited := (m.walk root st.visited).2 } rs =
        (visitMembers m st₁ members').map _
      rw [heq _ rfl, visitMembers_visit]
      cases visitMembers m st₁ members' <;> rfl

theorem exists_root (hc : m.Closed) {root : ShapeId} (h : root ∈ roots m) :
    ∃ s, m.get? root = some s := by
  obtain ⟨id, s, input, output, errors, hs, hk, hin⟩ := mem_roots.mp h
  refine hc hs ?_
  rw [Shape.references, hk]
  rcases hin with rfl | rfl <;> simp [ShapeKind.references]

theorem visitRoots_roots (hc : m.Closed) :
    ∃ found visited members, DepthFirst m (roots m) ∅ found visited ∧
      MembersInOrder m found members ∧
      visitRoots m {} (roots m) =
        (visitMembers m {} members).map fun st => { st with visited } := by
  obtain ⟨found, visited, members, hfound, hmembers, heq⟩ :=
    visitRoots_eq hc ∅ fun root => exists_root hc
  exact ⟨found, visited, members, hfound, hmembers, heq {} rfl⟩

theorem MembersInOrder.live {found members : List Shape} {visited : ShapeIds}
    (h : MembersInOrder m found members) (hfound : DepthFirst m (roots m) ∅ found visited)
    (hmember : member ∈ members) : ∃ i, m.LiveMember i member := by
  obtain ⟨i, hi, hget⟩ := Outcome.exists_of_forall₂ h hmember
  obtain ⟨s, hs, hi⟩ := List.mem_flatMap.mp hi
  obtain ⟨hs, hst⟩ := List.mem_filter.mp hs
  obtain ⟨id, hid, root, hroot, hreach⟩ := hfound.walked.mem_found.mp hs
  exact ⟨i, id, s, ⟨root, mem_roots.mp hroot, hreach⟩, hid, hst, hi, hget⟩

end Extraction

end CrateGen
