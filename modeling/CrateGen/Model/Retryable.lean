import CrateGen.Model.Walk

namespace CrateGen.Model

/-- An error structure as a fault of the server that may be retried. -/
def asRetryable (s : Shape) : Shape :=
  (s.withTrait (.error .server)).withTrait (.retryable false)

/-- The error structures of the model among the given ids. -/
def errorStructures (m : Model) (ids : ShapeIds) : List Shape :=
  (ids.toList.filterMap m.get?).filter fun s => s.isStructure && s.isError

/-- Marks the error structures among the given ids as retryable faults of the server; other ids
are left alone. -/
def markRetryable (m : Model) (ids : ShapeIds) : Except Error Model := do
  let result := m.insertAll ((m.errorStructures ids).map asRetryable)
  result.validate
  return result

end CrateGen.Model
