import CrateGen.Model.Basic
import Std.Data.ExtTreeSet

namespace CrateGen

abbrev ShapeIds := Std.ExtTreeSet ShapeId

namespace Model

/-- How many references the shapes of a model hold. -/
def referenceCount (m : Model) : Nat :=
  (m.toList.flatMap Shape.references).length

/-- Visits the ids on a stack that are not visited yet, depth first, and gives the shapes found
under them with all the ids visited. Every step takes one id off the stack, and the references of
a shape come onto it once, so `fuel` is never short when it is at least the length of the stack
and the number of references of shapes not yet visited. -/
def walkStack (m : Model) (fuel : Nat) (stack : List ShapeId) (visited : ShapeIds) :
    List Shape × ShapeIds :=
  match fuel, stack with
  | 0, _ => ([], visited)
  | _, [] => ([], visited)
  | fuel + 1, id :: stack =>
    if visited.contains id then m.walkStack fuel stack visited
    else
      match m.get? id with
      | none => m.walkStack fuel stack (visited.insert id)
      | some s =>
        let (found, visited) := m.walkStack fuel (s.references ++ stack) (visited.insert id)
        (s :: found, visited)

/-- The shapes reachable from a root, each where it is first met, except through ids visited
before; and the ids visited by now. -/
def walk (m : Model) (root : ShapeId) (visited : ShapeIds) : List Shape × ShapeIds :=
  m.walkStack (m.referenceCount + 1) [root] visited

def reachable (m : Model) (root : ShapeId) : List Shape :=
  (m.walk root ∅).1

end Model

end CrateGen
