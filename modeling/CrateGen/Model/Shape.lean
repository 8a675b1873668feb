import CrateGen.Model.Trait

namespace CrateGen

inductive Primitive where
  | blob
  | boolean
  | string
  | byte
  | short
  | integer
  | long
  | float
  | double
  | timestamp
deriving DecidableEq

namespace Primitive

def all : List Primitive :=
  [blob, boolean, string, byte, short, integer, long, float, double, timestamp]

def name : Primitive → String
  | blob => "Blob"
  | boolean => "Boolean"
  | string => "String"
  | byte => "Byte"
  | short => "Short"
  | integer => "Integer"
  | long => "Long"
  | float => "Float"
  | double => "Double"
  | timestamp => "Timestamp"

def isNumber : Primitive → Bool
  | byte | short | integer | long | float | double => true
  | _ => false

end Primitive

/-- What a shape is. Aggregates hold the ids of their members in order. -/
inductive ShapeKind where
  | structure (members : List ShapeId)
  | union (members : List ShapeId)
  | list (member : ShapeId)
  | map (key value : ShapeId)
  | enum (variants : List String)
  | primitive (type : Primitive)
  | operation (input output : Option ShapeId) (errors : List ShapeId)
  | service (version : String) (operations : List ShapeId)
  | member (target : ShapeId)
deriving DecidableEq

namespace ShapeKind

/-- The ids of the members that a shape owns. -/
def ownedMembers : ShapeKind → List ShapeId
  | .structure members | .union members => members
  | .list item => [item]
  | .map key value => [key, value]
  | _ => []

/-- The ids a shape points at, in declaration order. -/
def references : ShapeKind → List ShapeId
  | .structure members | .union members => members
  | .list item => [item]
  | .map key value => [key, value]
  | .operation input output errors => input.toList ++ output.toList ++ errors
  | .service _ operations => operations
  | .member target => [target]
  | .enum _ | .primitive _ => []

/-- The same kind with every owned member's id replaced. -/
def mapMembers (f : ShapeId → ShapeId) : ShapeKind → ShapeKind
  | .structure members => .structure (members.map f)
  | .union members => .union (members.map f)
  | .list item => .list (f item)
  | .map key value => .map (f key) (f value)
  | kind => kind

/-- Points a member at another target; nothing else has a target. -/
def retarget (target : ShapeId) : ShapeKind → ShapeKind
  | .member _ => .member target
  | kind => kind

end ShapeKind

structure Shape where
  id : ShapeId
  kind : ShapeKind
  traits : Traits := ∅
deriving DecidableEq

namespace Shape

def withTrait (s : Shape) (t : Trait) : Shape :=
  { s with traits := s.traits.insert t }

def withTraits (s : Shape) (ts : Traits) : Shape :=
  { s with traits := ts }

def documentation? (s : Shape) : Option String :=
  match s.traits.get? .documentation with
  | some (.documentation text) => some text
  | _ => none

def deprecation? (s : Shape) : Option Deprecation :=
  match s.traits.get? .deprecated with
  | some (.deprecated notice) => some notice
  | _ => none

def protocol? (s : Shape) : Option String :=
  match s.traits.get? .protocol with
  | some (.protocol name) => some name
  | _ => none

def isStructure (s : Shape) : Bool :=
  match s.kind with
  | .structure _ => true
  | _ => false

def isUnion (s : Shape) : Bool :=
  match s.kind with
  | .union _ => true
  | _ => false

def isOperation (s : Shape) : Bool :=
  match s.kind with
  | .operation _ _ _ => true
  | _ => false

def isError (s : Shape) : Bool :=
  s.traits.contains .error

def isRequired (s : Shape) : Bool :=
  s.traits.contains .required

def primitive? (s : Shape) : Option Primitive :=
  match s.kind with
  | .primitive type => some type
  | _ => none

def memberIds (s : Shape) : List ShapeId :=
  match s.kind with
  | .structure members | .union members => members
  | _ => []

def target? (s : Shape) : Option ShapeId :=
  match s.kind with
  | .member target => some target
  | _ => none

def references (s : Shape) : List ShapeId :=
  s.kind.references

/-- The name of a member within its container, and nothing for a root. -/
def memberName (s : Shape) : String :=
  s.id.member.getD ""

/-- The copy of a shape under another root. Ids of owned members move below the new root; the
members themselves are to be copied apart. -/
def copyTo (s : Shape) (id : ShapeId) : Shape :=
  let move (m : ShapeId) : ShapeId :=
    match m.member with
    | some name => id.withMember name
    | none => m
  { s with id, kind := s.kind.mapMembers move }

def retarget (s : Shape) (target : ShapeId) : Shape :=
  { s with kind := s.kind.retarget target }

end Shape

end CrateGen
