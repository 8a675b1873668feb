import CrateGen.Error
import CrateGen.Model.Shape
import Std.Data.ExtTreeMap

namespace CrateGen

/-- Shapes by id, in the order of ids. Two models are equal when they hold the same shape under
every id. -/
@[ext]
structure Model where
  shapes : Std.ExtTreeMap ShapeId Shape
deriving DecidableEq

namespace Model

def get? (m : Model) (id : ShapeId) : Option Shape :=
  m.shapes[id]?

def contains (m : Model) (id : ShapeId) : Bool :=
  m.shapes.contains id

def insert (m : Model) (s : Shape) : Model :=
  ⟨m.shapes.insert s.id s⟩

def insertAll (m : Model) (ss : List Shape) : Model :=
  ss.foldl insert m

def size (m : Model) : Nat :=
  m.shapes.size

def toList (m : Model) : List Shape :=
  m.shapes.values

def structures (m : Model) : List Shape :=
  m.toList.filter Shape.isStructure

def operations (m : Model) : List Shape :=
  m.toList.filter Shape.isOperation

def expect (m : Model) (id : ShapeId) : Except Error Shape :=
  match m.get? id with
  | some s => .ok s
  | none => .error (.missingShape id)

def memberTarget (m : Model) (member : Shape) : Except Error Shape :=
  match member.target? with
  | some target => m.expect target
  | none => .error (.unexpectedShapeKind member.id "member")

def membersOf (m : Model) (s : Shape) : Except Error (List Shape) :=
  s.memberIds.mapM m.expect

/-- The operations of a service, in the order of their ids. -/
def serviceOperations (m : Model) (service : ShapeId) : Except Error (List Shape) := do
  let s ← m.expect service
  match s.kind with
  | .service _ operations =>
    let shapes ← operations.mapM m.expect
    return shapes.mergeSort fun a b => (compare a.id b.id).isLE
  | _ => throw (.unexpectedShapeKind service "service")

/-- The first reference of a shape that does not resolve. -/
def dangling? (m : Model) (s : Shape) : Option Error :=
  (s.references.find? (!m.contains ·)).map (.danglingReference s.id)

/-- Checks that every reference resolves; the first shape in the order of ids with one that does
not is reported. -/
def validate (m : Model) : Except Error Unit :=
  match m.toList.findSome? m.dangling? with
  | some e => .error e
  | none => .ok ()

end Model

end CrateGen
