import CrateGen.Model.Builder
import CrateGen.Proofs.SortedMap
import Mathlib.Data.List.Forall2

namespace CrateGen

variable {m : Model} {id : ShapeId} {s : Shape}

theorem Model.contains_iff : m.contains id = true ↔ ∃ s, m.get? id = some s := by
  rw [Model.contains, Model.get?, Std.ExtTreeMap.contains_eq_isSome_getElem?,
    Option.isSome_iff_exists]

theorem Model.contains_eq_false : m.contains id = false ↔ m.get? id = none := by
  rw [Model.contains, Model.get?, Std.ExtTreeMap.contains_eq_isSome_getElem?,
    Option.isSome_eq_false_iff, Option.isNone_iff_eq_none]

theorem Model.mem_toList : s ∈ m.toList ↔ ∃ id, m.get? id = some s :=
  SortedMap.mem_values

@[simp] theorem Model.get?_insert (m : Model) (s : Shape) (id : ShapeId) :
    (m.insert s).get? id = if s.id = id then some s else m.get? id := by
  simp only [Model.insert, Model.get?, Std.ExtTreeMap.getElem?_insert, Std.compare_eq_iff_eq]

theorem Model.get?_insertAll (m : Model) (ss : List Shape) (id : ShapeId) :
    (m.insertAll ss).get? id = (ss.reverse.find? (·.id = id)).or (m.get? id) := by
  induction ss generalizing m with
  | nil => rfl
  | cons s ss ih =>
    change ((m.insert s).insertAll ss).get? id = _
    rw [ih, Model.get?_insert, List.reverse_cons, List.find?_append, Option.or_assoc]
    by_cases h : s.id = id <;> simp [h]

theorem Model.get?_insertAll_of_notMem (m : Model) {ss : List Shape} (h : ∀ s ∈ ss, s.id ≠ id) :
    (m.insertAll ss).get? id = m.get? id := by
  have hf : ss.reverse.find? (·.id = id) = none := by
    simpa only [List.find?_eq_none, List.mem_reverse, decide_eq_true_eq] using h
  rw [Model.get?_insertAll, hf, Option.none_or]

/-- Shapes of one id that are all alike, and the only ones of their id, are what is found. -/
theorem Model.get?_insertAll_of_mem (m : Model) {ss : List Shape} (hs : s ∈ ss)
    (h : ∀ t ∈ ss, t.id = s.id → t = s) : (m.insertAll ss).get? s.id = some s := by
  have hf : (ss.reverse.find? (·.id = s.id)).isSome := by
    simpa only [List.find?_isSome, List.mem_reverse, decide_eq_true_eq] using ⟨s, hs, rfl⟩
  obtain ⟨t, ht⟩ := Option.isSome_iff_exists.mp hf
  have hm := List.mem_reverse.mp (List.mem_of_find?_eq_some ht)
  have hid : t.id = s.id := by simpa only [decide_eq_true_eq] using List.find?_some ht
  rw [Model.get?_insertAll, ht, h t hm hid, Option.some_or]

theorem Model.get?_insertAll_cases {ss : List Shape}
    (h : (m.insertAll ss).get? id = some s) : (s ∈ ss ∧ s.id = id) ∨ m.get? id = some s := by
  rw [Model.get?_insertAll] at h
  rcases Option.or_eq_some_iff.mp h with hf | ⟨-, hm⟩
  · exact .inl ⟨List.mem_reverse.mp (List.mem_of_find?_eq_some hf),
      by simpa only [decide_eq_true_eq] using List.find?_some hf⟩
  · exact .inr hm

theorem Model.contains_insertAll (ss : List Shape) (h : m.contains id = true) :
    (m.insertAll ss).contains id = true := by
  obtain ⟨s, hs⟩ := Model.contains_iff.mp h
  rw [Model.contains_iff, Model.get?_insertAll, hs]
  cases ss.reverse.find? (·.id = id) with
  | none => exact ⟨s, rfl⟩
  | some t => exact ⟨t, rfl⟩

theorem Model.expect_eq_ok : m.expect id = .ok s ↔ m.get? id = some s := by
  rw [Model.expect]
  cases m.get? id <;> simp

theorem Model.memberTarget_eq_ok {member target : Shape} :
    m.memberTarget member = .ok target ↔
      ∃ id, member.kind = .member id ∧ m.get? id = some target := by
  rw [Model.memberTarget, Shape.target?]
  cases member.kind <;> simp [Model.expect_eq_ok]

def Model.Listed (m : Model) (ids : List ShapeId) (ss : List Shape) : Prop :=
  List.Forall₂ (fun id s => m.get? id = some s) ids ss

def Model.Targets (m : Model) (member target : Shape) : Prop :=
  ∃ id, member.kind = .member id ∧ m.get? id = some target

theorem Model.Targets.unique {member target target' : Shape} (h : m.Targets member target)
    (h' : m.Targets member target') : target = target' := by
  obtain ⟨t, hk, ht⟩ := h
  obtain ⟨t', hk', ht'⟩ := h'
  cases hk.symm.trans hk'
  exact Option.some.inj (ht.symm.trans ht')

theorem Model.Listed.unique {ids : List ShapeId} {ss ss' : List Shape} (h : m.Listed ids ss)
    (h' : m.Listed ids ss') : ss = ss' :=
  Relator.RightUnique.forall₂ (fun _ _ _ hs hs' => Option.some.inj (hs.symm.trans hs')) h h'

/-- Every shape stands under its own id. -/
def Model.Keyed (m : Model) : Prop :=
  ∀ {id s}, m.get? id = some s → s.id = id

/-- Every reference of every shape resolves. -/
def Model.Closed (m : Model) : Prop :=
  ∀ {id s r}, m.get? id = some s → r ∈ s.references → ∃ t, m.get? r = some t

theorem Model.Keyed.mem_toList (hk : m.Keyed) : s ∈ m.toList ↔ m.get? s.id = some s := by
  rw [Model.mem_toList]
  constructor
  · rintro ⟨id, hid⟩
    rw [hk hid]
    exact hid
  · intro hs
    exact ⟨s.id, hs⟩

theorem Model.dangling?_eq_none :
    m.dangling? s = none ↔ ∀ r ∈ s.references, ∃ t, m.get? r = some t := by
  simp only [Model.dangling?, Option.map_eq_none_iff, List.find?_eq_none, Bool.not_eq_true',
    Bool.not_eq_false, Model.contains_iff]

theorem Model.validate_eq_ok : m.validate = .ok () ↔ m.Closed := by
  have hv : m.validate = .ok () ↔ ∀ s ∈ m.toList, m.dangling? s = none := by
    rw [Model.validate, ← List.findSome?_eq_none_iff]
    cases m.toList.findSome? m.dangling? <;> simp
  rw [hv]
  constructor
  · intro h id s r hs hr
    exact Model.dangling?_eq_none.mp (h s (Model.mem_toList.mpr ⟨id, hs⟩)) r hr
  · intro h s hs
    obtain ⟨id, hid⟩ := Model.mem_toList.mp hs
    exact Model.dangling?_eq_none.mpr fun r hr => h hid hr

end CrateGen
