import CrateGen.Proofs.Model.Reach
import CrateGen.Proofs.Outcome
import Mathlib.Data.List.Nodup

/-!
A walk keeps a stack of ids, on which an id may stand many times and which holds ids that have been
visited since they were put there. It finds what the recursive traversal finds, in the same order;
walks that share what they visit divide what is reachable among them, each shape to the first root
that reaches it.
-/

namespace CrateGen

variable {m : Model} {id : ShapeId} {s : Shape} {ids ids' stack : List ShapeId}
  {visited visited' visited'' : ShapeIds} {found found' : List Shape}

/-- The recursive traversal of the ids of a list in order, given what was visited before. A shape
stands before what is found below its references, and that before what is found behind it. -/
inductive DepthFirst (m : Model) :
    List ShapeId → ShapeIds → List Shape → ShapeIds → Prop where
  | nil {visited : ShapeIds} : DepthFirst m [] visited [] visited
  | skip {id : ShapeId} {ids : List ShapeId} {visited visited' : ShapeIds} {found : List Shape}
    (hv : id ∈ visited) (hrest : DepthFirst m ids visited found visited') :
    DepthFirst m (id :: ids) visited found visited'
  | missing {id : ShapeId} {ids : List ShapeId} {visited visited' : ShapeIds} {found : List Shape}
    (hv : id ∉ visited) (hid : m.get? id = none)
    (hrest : DepthFirst m ids (visited.insert id) found visited') :
    DepthFirst m (id :: ids) visited found visited'
  | visit {id : ShapeId} {ids : List ShapeId} {s : Shape} {visited visited' visited'' : ShapeIds}
    {below found : List Shape} (hv : id ∉ visited) (hs : m.get? id = some s)
    (hbelow : DepthFirst m s.references (visited.insert id) below visited')
    (hrest : DepthFirst m ids visited' found visited'') :
    DepthFirst m (id :: ids) visited (s :: (below ++ found)) visited''

namespace DepthFirst

theorem unique (h : DepthFirst m ids visited found visited')
    (h' : DepthFirst m ids visited found' visited'') : found = found' ∧ visited' = visited'' := by
  induction h generalizing found' visited'' with
  | nil =>
    cases h'
    exact ⟨rfl, rfl⟩
  | skip hv _ ih =>
    cases h' with
    | skip _ hrest => exact ih hrest
    | missing hv' | visit hv' => exact (hv' hv).elim
  | missing hv hid _ ih =>
    cases h' with
    | skip hv' => exact (hv hv').elim
    | missing _ _ hrest => exact ih hrest
    | visit _ hs => cases hid.symm.trans hs
  | visit hv hs _ _ ihbelow ihrest =>
    cases h' with
    | skip hv' => exact (hv hv').elim
    | missing _ hid => cases hs.symm.trans hid
    | visit _ hs' hbelow hrest =>
      cases hs.symm.trans hs'
      obtain ⟨rfl, rfl⟩ := ihbelow hbelow
      obtain ⟨rfl, rfl⟩ := ihrest hrest
      exact ⟨rfl, rfl⟩

theorem append (h : DepthFirst m ids visited found visited')
    (h' : DepthFirst m ids' visited' found' visited'') :
    DepthFirst m (ids ++ ids') visited (found ++ found') visited'' := by
  induction h with
  | nil => exact h'
  | skip hv _ ih => exact .skip hv (ih h')
  | missing hv hid _ ih => exact .missing hv hid (ih h')
  | visit hv hs hbelow _ _ ihrest =>
    rw [List.cons_append, List.cons_append, List.append_assoc]
    exact .visit hv hs hbelow (ihrest h')

/-- What a list of references and the rest of a stack lead to is found one after the other. -/
theorem split (h : DepthFirst m (ids ++ ids') visited found visited'') :
    ∃ first visited' second, found = first ++ second ∧ DepthFirst m ids visited first visited' ∧
      DepthFirst m ids' visited' second visited'' := by
  induction ids generalizing visited found with
  | nil => exact ⟨[], visited, found, rfl, .nil, h⟩
  | cons id ids ih =>
    cases h with
    | skip hv hrest =>
      obtain ⟨first, visited', second, heq, hfirst, hsecond⟩ := ih hrest
      exact ⟨first, visited', second, heq, .skip hv hfirst, hsecond⟩
    | missing hv hid hrest =>
      obtain ⟨first, visited', second, heq, hfirst, hsecond⟩ := ih hrest
      exact ⟨first, visited', second, heq, .missing hv hid hfirst, hsecond⟩
    | @visit _ _ s _ _ _ below _ hv hs hbelow hrest =>
      obtain ⟨first, visited', second, rfl, hfirst, hsecond⟩ := ih hrest
      refine ⟨s :: (below ++ first), visited', second, ?_, .visit hv hs hbelow hfirst, hsecond⟩
      rw [List.cons_append, List.append_assoc]

theorem walked (h : DepthFirst m ids visited found visited') :
    Walked m ids visited found visited' := by
  induction h with
  | nil => exact .nil m _
  | skip hv _ ih => exact ih.skip hv
  | missing _ hid _ ih => exact ih.missing hid
  | visit _ hs _ _ ihbelow ihrest => exact (ihbelow.append ihrest).visit hs

/-- Every shape that is found stands under an id of its own, which is visited now and was not
before. -/
theorem exists_ids (h : DepthFirst m ids visited found visited') :
    ∃ new : List ShapeId, new.Nodup ∧ m.Listed new found ∧
      ∀ id ∈ new, id ∉ visited ∧ id ∈ visited' := by
  induction h with
  | nil => exact ⟨[], List.nodup_nil, .nil, fun id hid => by cases hid⟩
  | skip _ _ ih => exact ih
  | missing _ _ _ ih =>
    obtain ⟨new, hnodup, hall, hnew⟩ := ih
    refine ⟨new, hnodup, hall, ?_⟩
    intro id hid
    exact ⟨fun hv => (hnew id hid).1 (ShapeIds.mem_insert.mpr (.inr hv)), (hnew id hid).2⟩
  | @visit root _ s _ _ _ _ _ hv hs hbelow hrest ihbelow ihrest =>
    obtain ⟨new, hnodup, hall, hnew⟩ := ihbelow
    obtain ⟨new', hnodup', hall', hnew'⟩ := ihrest
    have hmarked := hbelow.walked.keeps (ShapeIds.mem_insert.mpr (.inl (Eq.refl root)))
    have hroot : root ∉ new ++ new' := by
      intro hid
      rcases List.mem_append.mp hid with hid | hid
      · exact (hnew root hid).1 (ShapeIds.mem_insert.mpr (.inl rfl))
      · exact (hnew' root hid).1 hmarked
    have hdisjoint : new.Disjoint new' := fun id hid hid' => (hnew' id hid').1 (hnew id hid).2
    refine ⟨root :: (new ++ new'), List.nodup_cons.mpr ⟨hroot, hnodup.append hnodup' hdisjoint⟩,
      .cons hs (List.rel_append hall hall'), ?_⟩
    intro id hid
    rcases List.mem_cons.mp hid with rfl | hid
    · exact ⟨hv, hrest.walked.keeps hmarked⟩
    rcases List.mem_append.mp hid with hid | hid
    · exact ⟨fun hv => (hnew id hid).1 (ShapeIds.mem_insert.mpr (.inr hv)),
        hrest.walked.keeps (hnew id hid).2⟩
    · refine ⟨fun hv => (hnew' id hid).1 ?_, (hnew' id hid).2⟩
      exact hbelow.walked.keeps (ShapeIds.mem_insert.mpr (.inr hv))

end DepthFirst

namespace Model

def placed (m : Model) : List Shape :=
  m.shapes.toList.map fun entry => { entry.2 with id := entry.1 }

theorem mem_placed (hs : m.get? id = some s) : { s with id } ∈ m.placed :=
  List.mem_map.mpr ⟨(id, s), Std.ExtTreeMap.mem_toList_iff_getElem?_eq_some.mpr hs, rfl⟩

theorem references_placed (m : Model) :
    (m.placed.flatMap Shape.references).length = m.referenceCount := by
  rw [placed, referenceCount, toList, SortedMap.values_eq, List.flatMap_map, List.flatMap_map]
  rfl

/-- With fuel for the stack and for the references still to come, no walk stops short. -/
theorem walkStack_depthFirst
    (hf : stack.length + pendingReferences visited m.placed ≤ fuel) :
    DepthFirst m stack visited (m.walkStack fuel stack visited).1
      (m.walkStack fuel stack visited).2 := by
  induction fuel generalizing stack visited with
  | zero =>
    have hnil : stack = [] := List.eq_nil_of_length_eq_zero (by omega)
    subst stack
    exact .nil
  | succ fuel ih =>
    cases stack with
    | nil => exact .nil
    | cons id stack =>
      rw [List.length_cons] at hf
      rw [walkStack]
      by_cases hv : id ∈ visited
      · rw [if_pos (Std.ExtTreeSet.mem_iff_contains.mp hv)]
        exact .skip hv (ih (by omega))
      · rw [if_neg (mt Std.ExtTreeSet.mem_iff_contains.mpr hv)]
        cases hs : m.get? id with
        | none =>
          have hle := pendingReferences_insert_le visited id m.placed
          exact .missing hv hs (ih (by omega))
        | some s =>
          have hlt : s.references.length + pendingReferences (visited.insert id) m.placed ≤
              pendingReferences visited m.placed :=
            pendingReferences_insert (s := { s with id }) hv (mem_placed hs)
          have hfuel : (s.references ++ stack).length +
              pendingReferences (visited.insert id) m.placed ≤ fuel := by
            rw [List.length_append]
            omega
          have hwalk := ih hfuel
          obtain ⟨below, visited', rest, heq, hbelow, hrest⟩ := hwalk.split
          dsimp only
          rw [heq]
          exact .visit hv hs hbelow hrest

theorem walk_isDepthFirst (m : Model) (root : ShapeId) (visited : ShapeIds) :
    DepthFirst m [root] visited (m.walk root visited).1 (m.walk root visited).2 := by
  apply walkStack_depthFirst
  have hle := pendingReferences_le visited m.placed
  rw [references_placed] at hle
  rw [List.length_singleton]
  omega

theorem placed_of_keyed (hk : m.Keyed) : m.placed = m.toList := by
  rw [placed, toList, SortedMap.values_eq]
  apply List.map_congr_left
  intro entry hentry
  have hid := hk (Std.ExtTreeMap.mem_toList_iff_getElem?_eq_some.mp hentry)
  rw [← hid]

theorem walkStack_walked (hk : m.Keyed)
    (hf : stack.length + pendingReferences visited m.toList ≤ fuel) :
    Walked m stack visited (m.walkStack fuel stack visited).1
      (m.walkStack fuel stack visited).2 := by
  rw [← placed_of_keyed hk] at hf
  exact (walkStack_depthFirst hf).walked

theorem walk_walked (hk : m.Keyed) (root : ShapeId) (visited : ShapeIds) :
    Walked m [root] visited (m.walk root visited).1 (m.walk root visited).2 := by
  apply walkStack_walked hk
  have hle := pendingReferences_le visited m.toList
  rw [List.length_singleton, referenceCount]
  omega

theorem walk_eq_iff {root : ShapeId} :
    m.walk root visited = (found, visited') ↔ DepthFirst m [root] visited found visited' := by
  constructor
  · intro h
    have hwalk := m.walk_isDepthFirst root visited
    rwa [h] at hwalk
  · intro h
    obtain ⟨hfound, hvisited⟩ := (m.walk_isDepthFirst root visited).unique h
    exact Prod.ext hfound hvisited

/-- Walks from the roots of a list, each of which goes on with what those before it visited. -/
def walkEach (m : Model) (visited : ShapeIds) : List ShapeId → List (List Shape)
  | [] => []
  | root :: roots => (m.walk root visited).1 :: m.walkEach (m.walk root visited).2 roots

theorem length_walkEach (m : Model) (visited : ShapeIds) (roots : List ShapeId) :
    (m.walkEach visited roots).length = roots.length := by
  induction roots generalizing visited with
  | nil => rfl
  | cons root roots ih => rw [walkEach, List.length_cons, List.length_cons, ih]

theorem walkEach_depthFirst (m : Model) (visited : ShapeIds) (roots : List ShapeId) :
    ∃ visited', DepthFirst m roots visited (m.walkEach visited roots).flatten visited' := by
  induction roots generalizing visited with
  | nil => exact ⟨visited, .nil⟩
  | cons root roots ih =>
    obtain ⟨visited', hrest⟩ := ih (m.walk root visited).2
    exact ⟨visited', (m.walk_isDepthFirst root visited).append hrest⟩

theorem getElem?_walkEach (m : Model) (visited : ShapeIds) {roots : List ShapeId}
    (i : Fin roots.length) :
    ∃ found visited', DepthFirst m (roots.take i) visited found visited' ∧
      (m.walkEach visited roots)[i.val]? = some (m.walk roots[i] visited').1 := by
  induction roots generalizing visited with
  | nil => exact i.elim0
  | cons root roots ih =>
    cases i using Fin.cases with
    | zero => exact ⟨[], visited, .nil, rfl⟩
    | succ i =>
      obtain ⟨found, visited', hbefore, hget⟩ := ih (m.walk root visited).2 i
      exact ⟨_, visited', (m.walk_isDepthFirst root visited).append hbefore, hget⟩

/-- Walks from the roots of a list divide what is reachable from them. -/
structure Divides (m : Model) (roots : List ShapeId) (walks : List (List Shape)) : Prop where
  length_eq : walks.length = roots.length
  /-- A walk finds what its root reaches and no root before it. -/
  mem_iff : ∀ i : Fin roots.length, ∃ found, walks[i.val]? = some found ∧
    ∀ s, s ∈ found ↔ ∃ id, m.get? id = some s ∧ m.Reaches roots[i] id ∧
      ∀ root ∈ roots.take i, ¬ m.Reaches root id
  /-- The shapes that are found stand under ids that are all different. -/
  once : ∃ ids : List ShapeId, ids.Nodup ∧ m.Listed ids walks.flatten

theorem walkEach_divides (m : Model) (roots : List ShapeId) :
    m.Divides roots (m.walkEach ∅ roots) where
  length_eq := m.length_walkEach ∅ roots
  mem_iff i := by
    obtain ⟨found, visited, hbefore, hget⟩ := m.getElem?_walkEach ∅ i
    have hwalk := m.walk_isDepthFirst roots[i] visited
    have hearlier (id : ShapeId) : id ∈ visited ↔ ∃ root ∈ roots.take i, m.Reaches root id :=
      hbefore.walked.mem_iff
    have hlater (id : ShapeId) : id ∈ (m.walk roots[i] visited).2 ↔
        id ∈ visited ∨ m.Reaches roots[i] id := by
      rw [(hbefore.append hwalk).walked.mem_iff, hearlier]
      simp only [List.mem_append, List.mem_singleton, or_and_right, exists_or, exists_eq_left]
    refine ⟨_, hget, ?_⟩
    intro s
    constructor
    · intro hs
      obtain ⟨new, -, hall, hnew⟩ := hwalk.exists_ids
      obtain ⟨id, hid, hget⟩ := Outcome.exists_of_forall₂ hall hs
      obtain ⟨hv, hv'⟩ := hnew id hid
      refine ⟨id, hget, ((hlater id).mp hv').resolve_left hv, ?_⟩
      intro root hroot hreach
      exact hv ((hearlier id).mpr ⟨root, hroot, hreach⟩)
    · rintro ⟨id, hid, hreach, hno⟩
      refine (hwalk.walked.closed ((hlater id).mpr (.inr hreach)) (fun hv => ?_) hid).1
      obtain ⟨root, hroot, hearly⟩ := (hearlier id).mp hv
      exact hno root hroot hearly
  once := by
    obtain ⟨visited', h⟩ := m.walkEach_depthFirst ∅ roots
    obtain ⟨ids, hnodup, hall, -⟩ := h.exists_ids
    exact ⟨ids, hnodup, hall⟩

/-- A walk is the recursive traversal from its root, and walks that share what they visit divide
what is reachable among them. -/
theorem walk_depthFirst (m : Model) :
    (∀ root visited found visited',
      m.walk root visited = (found, visited') ↔ DepthFirst m [root] visited found visited') ∧
    ∀ roots, m.Divides roots (m.walkEach ∅ roots) :=
  ⟨fun _ _ _ _ => walk_eq_iff, m.walkEach_divides⟩

end Model

end CrateGen
