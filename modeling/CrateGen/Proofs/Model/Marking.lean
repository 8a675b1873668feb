import CrateGen.Model.Retryable
import CrateGen.Proofs.Model.Reach
import CrateGen.Proofs.Outcome

/-!
Marking errors changes the traits of error structures and nothing else, so a marked model resolves
the same references and is walked along the same ids.
-/

namespace CrateGen

variable {m : Model} {f : Shape → Shape} {id : ShapeId} {s : Shape}

/-- A change to the traits of error structures. -/
structure Shape.Remarks (f : Shape → Shape) : Prop where
  id_eq : ∀ s, (f s).id = s.id
  kind_eq : ∀ s, (f s).kind = s.kind
  fixed : ∀ {s}, (s.isStructure && s.isError) = false → f s = s

namespace Shape.Remarks

theorem references_eq (hf : Remarks f) (s : Shape) : (f s).references = s.references := by
  rw [references, references, hf.kind_eq]

theorem isStructure_eq (hf : Remarks f) (s : Shape) : (f s).isStructure = s.isStructure := by
  rw [isStructure, isStructure, hf.kind_eq]

theorem memberIds_eq (hf : Remarks f) (s : Shape) : (f s).memberIds = s.memberIds := by
  rw [memberIds, memberIds, hf.kind_eq]

theorem isOperation_comp (hf : Remarks f) : isOperation ∘ f = isOperation := by
  funext s
  rw [Function.comp_apply, isOperation, isOperation, hf.kind_eq]

theorem eq_of_member (hf : Remarks f) {target : ShapeId} (h : s.kind = .member target) :
    f s = s :=
  hf.fixed (by rw [isStructure, h, Bool.false_and])

end Shape.Remarks

namespace Model

def map (f : Shape → Shape) (m : Model) : Model :=
  ⟨m.shapes.map fun _ s => f s⟩

@[simp] theorem get?_map (f : Shape → Shape) (m : Model) (id : ShapeId) :
    (m.map f).get? id = (m.get? id).map f :=
  Std.ExtTreeMap.getElem?_map

@[simp] theorem contains_map (f : Shape → Shape) (m : Model) (id : ShapeId) :
    (m.map f).contains id = m.contains id :=
  Std.ExtTreeMap.contains_map

theorem toList_map (f : Shape → Shape) (m : Model) : (m.map f).toList = m.toList.map f := by
  rw [toList, toList, SortedMap.values_eq, SortedMap.values_eq, map, Std.ExtTreeMap.toList_map,
    List.map_map, List.map_map]
  rfl

theorem ext_get? {m m' : Model} (h : ∀ id, m.get? id = m'.get? id) : m = m' :=
  Model.ext (Std.ExtTreeMap.ext_getElem? h)

theorem expect_map (f : Shape → Shape) (m : Model) (id : ShapeId) :
    (m.map f).expect id = f <$> m.expect id := by
  rw [expect, expect, get?_map]
  cases m.get? id <;> rfl

section

variable (hf : Shape.Remarks f)
include hf

theorem insert_map (m : Model) (s : Shape) : (m.insert s).map f = (m.map f).insert (f s) := by
  refine ext_get? fun id => ?_
  rw [get?_map, get?_insert, get?_insert, get?_map, hf.id_eq, apply_ite (Option.map f)]
  rfl

theorem insertAll_map (m : Model) (ss : List Shape) :
    (m.insertAll ss).map f = (m.map f).insertAll (ss.map f) := by
  induction ss generalizing m with
  | nil => rfl
  | cons s ss ih =>
    change ((m.insert s).insertAll ss).map f = ((m.map f).insert (f s)).insertAll (ss.map f)
    rw [ih, insert_map hf]

theorem dangling?_map (m : Model) (s : Shape) : (m.map f).dangling? (f s) = m.dangling? s := by
  simp only [dangling?, hf.references_eq, hf.id_eq, contains_map]

theorem validate_map (m : Model) : (m.map f).validate = m.validate := by
  have hdangling : (m.map f).dangling? ∘ f = m.dangling? := funext (dangling?_map hf m)
  rw [validate, validate, toList_map, List.findSome?_map, hdangling]

theorem referenceCount_map (m : Model) : (m.map f).referenceCount = m.referenceCount := by
  rw [referenceCount, referenceCount, toList_map, List.flatMap_map]
  exact congrArg (fun g => (m.toList.flatMap g).length) (funext hf.references_eq)

theorem walkStack_map (m : Model) (fuel : Nat) (stack : List ShapeId) (visited : ShapeIds) :
    (m.map f).walkStack fuel stack visited =
      ((m.walkStack fuel stack visited).1.map f, (m.walkStack fuel stack visited).2) := by
  induction fuel generalizing stack visited with
  | zero => rfl
  | succ fuel ih =>
    cases stack with
    | nil => rfl
    | cons id stack =>
      rw [walkStack, walkStack, get?_map]
      cases visited.contains id with
      | true => exact ih stack visited
      | false =>
        cases m.get? id with
        | none => exact ih stack (visited.insert id)
        | some s =>
          simp only [Bool.false_eq_true, ↓reduceIte, Option.map_some, hf.references_eq, ih,
            List.map_cons]

theorem walk_map (m : Model) (root : ShapeId) (visited : ShapeIds) :
    (m.map f).walk root visited = ((m.walk root visited).1.map f, (m.walk root visited).2) := by
  rw [walk, walk, referenceCount_map hf, walkStack_map hf]

theorem operations_map (m : Model) : (m.map f).operations = m.operations.map f := by
  rw [operations, operations, toList_map, List.filter_map, hf.isOperation_comp]

end

/-! ## Errors that are marked -/

/-- Marks an error structure among the given ids. -/
def mark (ids : ShapeIds) (s : Shape) : Shape :=
  if s.id ∈ ids ∧ (s.isStructure && s.isError) = true then asRetryable s else s

theorem remarks_mark (ids : ShapeIds) : Shape.Remarks (mark ids) where
  id_eq s := by
    rw [mark]
    split <;> rfl
  kind_eq s := by
    rw [mark]
    split <;> rfl
  fixed {s} h := by
    rw [mark, if_neg]
    rw [h]
    exact fun hmark => Bool.noConfusion hmark.2

theorem mem_errorStructures (hk : m.Keyed) {ids : ShapeIds} :
    s ∈ m.errorStructures ids ↔
      s.id ∈ ids ∧ (s.isStructure && s.isError) = true ∧ m.get? s.id = some s := by
  simp only [errorStructures, List.mem_filter, List.mem_filterMap, Std.ExtTreeSet.mem_toList]
  constructor
  · rintro ⟨⟨id, hid, hs⟩, herror⟩
    cases hk hs
    exact ⟨hid, herror, hs⟩
  · rintro ⟨hid, herror, hs⟩
    exact ⟨⟨s.id, hid, hs⟩, herror⟩

theorem insertAll_errorStructures (hk : m.Keyed) (ids : ShapeIds) :
    m.insertAll ((m.errorStructures ids).map asRetryable) = m.map (mark ids) := by
  refine ext_get? fun id => ?_
  rw [get?_map]
  -- what is put in under an id is made of the error that stands there
  have hunder {t : Shape} (ht : t ∈ (m.errorStructures ids).map asRetryable) (hid : t.id = id) :
      ∃ s, m.get? id = some s ∧ t = asRetryable s ∧
        s.id ∈ ids ∧ (s.isStructure && s.isError) = true := by
    obtain ⟨s, hs, rfl⟩ := List.mem_map.mp ht
    obtain ⟨hin, herror, hget⟩ := (mem_errorStructures hk).mp hs
    cases hid
    exact ⟨s, hget, rfl, hin, herror⟩
  cases hs : m.get? id with
  | none =>
    rw [get?_insertAll_of_notMem, hs]
    · rfl
    · intro t ht hid
      obtain ⟨s, hget, -⟩ := hunder ht hid
      cases hs.symm.trans hget
  | some s =>
    cases hk hs
    rw [Option.map_some, mark]
    split
    · next hmark =>
      have hmem : asRetryable s ∈ (m.errorStructures ids).map asRetryable :=
        List.mem_map_of_mem ((mem_errorStructures hk).mpr ⟨hmark.1, hmark.2, hs⟩)
      refine get?_insertAll_of_mem m hmem fun t ht hid => ?_
      obtain ⟨u, hget, rfl, -⟩ := hunder ht hid
      cases hs.symm.trans hget
      rfl
    · next hmark =>
      rw [get?_insertAll_of_notMem, hs]
      intro t ht hid
      obtain ⟨u, hget, -, hin⟩ := hunder ht hid
      cases hs.symm.trans hget
      exact hmark hin

theorem markRetryable_eq (hk : m.Keyed) (hc : m.Closed) (ids : ShapeIds) :
    m.markRetryable ids = .ok (m.map (mark ids)) := by
  rw [markRetryable, insertAll_errorStructures hk, validate_map (remarks_mark ids),
    validate_eq_ok.mpr hc]
  rfl

end Model

end CrateGen
