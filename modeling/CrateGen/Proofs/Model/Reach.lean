import CrateGen.Model.Walk
import CrateGen.Proofs.Model.Lookup
import Mathlib.Logic.Relation

namespace CrateGen

variable {m : Model} {id : ShapeId} {s : Shape} {stack : List ShapeId} {visited visited' : ShapeIds}
  {found : List Shape}

theorem ShapeIds.mem_insert {ids : ShapeIds} {x y : ShapeId} :
    x ∈ ids.insert y ↔ x = y ∨ x ∈ ids := by
  rw [Std.ExtTreeSet.mem_insert, Std.compare_eq_iff_eq, eq_comm]

/-- One id stands in the references of the shape of the other. -/
def Model.Refers (m : Model) (a b : ShapeId) : Prop :=
  ∃ s, m.get? a = some s ∧ b ∈ s.references

def Model.Reaches (m : Model) : ShapeId → ShapeId → Prop :=
  Relation.ReflTransGen m.Refers

theorem Model.Closed.contains {a b : ShapeId} (h : m.Closed) (hr : m.Reaches a b)
    (ha : m.contains a = true) : m.contains b = true := by
  induction hr with
  | refl => exact ha
  | tail _ hs _ =>
    obtain ⟨s, hs, hb⟩ := hs
    exact Model.contains_iff.mpr (h hs hb)

/-- How many references the shapes of a list hold, apart from those already visited. -/
def pendingReferences (visited : ShapeIds) (ss : List Shape) : Nat :=
  ((ss.filter fun s => !visited.contains s.id).flatMap Shape.references).length

theorem pendingReferences_le (visited : ShapeIds) (ss : List Shape) :
    pendingReferences visited ss ≤ (ss.flatMap Shape.references).length := by
  induction ss with
  | nil => exact Nat.le_refl _
  | cons s ss ih =>
    simp only [pendingReferences, List.filter_cons, List.flatMap_cons, List.length_append] at ih ⊢
    split
    · simp only [List.flatMap_cons, List.length_append]
      omega
    · omega

theorem pendingReferences_insert_le (visited : ShapeIds) (id : ShapeId) (ss : List Shape) :
    pendingReferences (visited.insert id) ss ≤ pendingReferences visited ss := by
  induction ss with
  | nil => exact Nat.le_refl _
  | cons s ss ih =>
    simp only [pendingReferences, List.filter_cons, Std.ExtTreeSet.contains_insert] at ih ⊢
    cases hv : visited.contains s.id <;> cases hc : compare id s.id == .eq <;>
      simp only [Bool.not_false, Bool.not_true, Bool.or_false, Bool.or_true, ↓reduceIte,
        Bool.false_eq_true, List.flatMap_cons, List.length_append] <;> omega

/-- The references of a shape are no longer pending once it is visited. -/
theorem pendingReferences_insert {ss : List Shape} (hv : s.id ∉ visited)
    (hs : s ∈ ss) :
    s.references.length + pendingReferences (visited.insert s.id) ss ≤
      pendingReferences visited ss := by
  induction ss with
  | nil => cases hs
  | cons t ss ih =>
    have hle := pendingReferences_insert_le visited s.id ss
    simp only [pendingReferences, List.filter_cons, Std.ExtTreeSet.contains_insert] at ih hle ⊢
    rcases List.mem_cons.mp hs with rfl | hs
    · have hc : visited.contains s.id = false := by
        rw [← Bool.not_eq_true, ← Std.ExtTreeSet.mem_iff_contains]
        exact hv
      simp only [hc, Std.ReflOrd.compare_self, beq_self_eq_true, Bool.true_or, Bool.not_true,
        Bool.not_false, ↓reduceIte, Bool.false_eq_true, List.flatMap_cons, List.length_append]
      omega
    · have hr := ih hs
      cases visited.contains t.id <;> cases compare s.id t.id == .eq <;>
        simp only [Bool.not_false, Bool.not_true, Bool.or_false, Bool.or_true, ↓reduceIte,
          Bool.false_eq_true, List.flatMap_cons, List.length_append] <;> omega

/-- What a walk from the ids of a stack leaves behind, given what was visited before. -/
structure Walked (m : Model) (stack : List ShapeId) (visited : ShapeIds) (found : List Shape)
    (visited' : ShapeIds) : Prop where
  keeps : ∀ {id}, id ∈ visited → id ∈ visited'
  visits : ∀ {id}, id ∈ stack → id ∈ visited'
  closed : ∀ {id s}, id ∈ visited' → id ∉ visited → m.get? id = some s →
    s ∈ found ∧ ∀ r ∈ s.references, r ∈ visited'
  finds : ∀ {s}, s ∈ found → ∃ id, m.get? id = some s ∧ id ∈ visited'
  reached : ∀ {id}, id ∈ visited' → id ∈ visited ∨ ∃ r ∈ stack, m.Reaches r id

theorem Walked.nil (m : Model) (visited : ShapeIds) : Walked m [] visited [] visited where
  keeps h := h
  visits h := by cases h
  closed h h' := (h' h).elim
  finds h := by cases h
  reached h := .inl h

theorem Walked.skip (h : Walked m stack visited found visited') (hid : id ∈ visited) :
    Walked m (id :: stack) visited found visited' where
  keeps := h.keeps
  visits hx := by
    rcases List.mem_cons.mp hx with rfl | hx
    · exact h.keeps hid
    · exact h.visits hx
  closed := h.closed
  finds := h.finds
  reached hx := (h.reached hx).imp_right fun ⟨r, hr, hrx⟩ => ⟨r, List.mem_cons_of_mem _ hr, hrx⟩

theorem Walked.missing (h : Walked m stack (visited.insert id) found visited')
    (hid : m.get? id = none) : Walked m (id :: stack) visited found visited' where
  keeps hx := h.keeps (ShapeIds.mem_insert.mpr (.inr hx))
  visits hx := by
    rcases List.mem_cons.mp hx with rfl | hx
    · exact h.keeps (ShapeIds.mem_insert.mpr (.inl rfl))
    · exact h.visits hx
  closed {x s} hx hnx hs := by
    refine h.closed hx (fun hi => ?_) hs
    rcases ShapeIds.mem_insert.mp hi with rfl | hi
    · rw [hid] at hs
      cases hs
    · exact hnx hi
  finds := h.finds
  reached hx := by
    rcases h.reached hx with hi | ⟨r, hr, hrx⟩
    · rcases ShapeIds.mem_insert.mp hi with rfl | hi
      · exact .inr ⟨_, List.mem_cons_self, .refl⟩
      · exact .inl hi
    · exact .inr ⟨r, List.mem_cons_of_mem _ hr, hrx⟩

theorem Walked.visit
    (h : Walked m (s.references ++ stack) (visited.insert id) found visited')
    (hs : m.get? id = some s) : Walked m (id :: stack) visited (s :: found) visited' where
  keeps hx := h.keeps (ShapeIds.mem_insert.mpr (.inr hx))
  visits hx := by
    rcases List.mem_cons.mp hx with rfl | hx
    · exact h.keeps (ShapeIds.mem_insert.mpr (.inl rfl))
    · exact h.visits (List.mem_append_right _ hx)
  closed {x t} hx hnx ht := by
    by_cases hxi : x = id
    · subst x
      cases hs.symm.trans ht
      exact ⟨List.mem_cons_self, fun r hr => h.visits (List.mem_append_left _ hr)⟩
    · have hni : x ∉ visited.insert id := fun hi =>
        (ShapeIds.mem_insert.mp hi).elim hxi hnx
      exact (h.closed hx hni ht).imp_left (List.mem_cons_of_mem _)
  finds {t} ht := by
    rcases List.mem_cons.mp ht with rfl | ht
    · exact ⟨id, hs, h.keeps (ShapeIds.mem_insert.mpr (.inl rfl))⟩
    · exact h.finds ht
  reached hx := by
    rcases h.reached hx with hi | ⟨r, hr, hrx⟩
    · rcases ShapeIds.mem_insert.mp hi with rfl | hi
      · exact .inr ⟨_, List.mem_cons_self, .refl⟩
      · exact .inl hi
    · rcases List.mem_append.mp hr with hr | hr
      · exact .inr ⟨id, List.mem_cons_self, .head ⟨s, hs, hr⟩ hrx⟩
      · exact .inr ⟨r, List.mem_cons_of_mem _ hr, hrx⟩

theorem Walked.append {stack' : List ShapeId} {visited'' : ShapeIds} {found' : List Shape}
    (h : Walked m stack visited found visited') (h' : Walked m stack' visited' found' visited'') :
    Walked m (stack ++ stack') visited (found ++ found') visited'' where
  keeps hx := h'.keeps (h.keeps hx)
  visits hx := by
    rcases List.mem_append.mp hx with hx | hx
    · exact h'.keeps (h.visits hx)
    · exact h'.visits hx
  closed {x t} hx hnx ht := by
    by_cases hv : x ∈ visited'
    · obtain ⟨hf, hr⟩ := h.closed hv hnx ht
      exact ⟨List.mem_append_left _ hf, fun r hrt => h'.keeps (hr r hrt)⟩
    · exact (h'.closed hx hv ht).imp_left (List.mem_append_right _)
  finds ht := by
    rcases List.mem_append.mp ht with ht | ht
    · obtain ⟨x, hx, hv⟩ := h.finds ht
      exact ⟨x, hx, h'.keeps hv⟩
    · exact h'.finds ht
  reached hx := by
    rcases h'.reached hx with hv | ⟨r, hr, hrx⟩
    · exact (h.reached hv).imp_right fun ⟨r, hr, hrx⟩ => ⟨r, List.mem_append_left _ hr, hrx⟩
    · exact .inr ⟨r, List.mem_append_right _ hr, hrx⟩

/-- A walk that starts with nothing visited visits what the stack reaches. -/
theorem Walked.mem_iff (h : Walked m stack ∅ found visited') :
    id ∈ visited' ↔ ∃ r ∈ stack, m.Reaches r id := by
  constructor
  · intro hx
    exact (h.reached hx).resolve_left Std.ExtTreeSet.not_mem_empty
  · rintro ⟨r, hr, hrx⟩
    induction hrx with
    | refl => exact h.visits hr
    | tail _ hs ih =>
      obtain ⟨s, hs, hx⟩ := hs
      exact (h.closed ih Std.ExtTreeSet.not_mem_empty hs).2 _ hx

theorem Walked.mem_found (h : Walked m stack ∅ found visited') :
    s ∈ found ↔ ∃ id, m.get? id = some s ∧ ∃ r ∈ stack, m.Reaches r id := by
  constructor
  · intro hs
    obtain ⟨id, hid, hv⟩ := h.finds hs
    exact ⟨id, hid, h.mem_iff.mp hv⟩
  · rintro ⟨id, hid, hr⟩
    exact (h.closed (h.mem_iff.mpr hr) Std.ExtTreeSet.not_mem_empty hid).1

end CrateGen
