import CrateGen.Model.Walk
import CrateGen.Name.Casing

namespace CrateGen.Extraction

/-- A constrained member, the shapes that take over its constraints, and the member without
them. -/
structure Extract where
  shape : Shape
  members : List Shape
  member : Shape

/-- The suffixes that are tried first: none, then `_0` to `_99`. -/
def numbered : List String :=
  "" :: (List.range 100).map fun i => "_" ++ toString i

/-- The suffixes that are tried last: an underscore with the first names of a list, one name more
each time. -/
def growing (before : String) : List String → List String
  | [] => []
  | name :: rest => (before ++ name) :: growing (before ++ name) rest

/-- The id of the shape extracted from a member. -/
def candidate (member : ShapeId) (suffix : String) : ShapeId :=
  member.withName
    ("Refactored" ++ member.name ++ Name.capitalize (member.member.getD "") ++ suffix)

/-- The first candidate that is neither in the model nor taken. -/
def freshId (m : Model) (taken : ShapeIds) (member : ShapeId) : Except Error ShapeId :=
  let isFree (suffix : String) : Bool :=
    let id := candidate member suffix
    !m.contains id && !taken.contains id
  match numbered.find? isFree <|>
      (growing "_" (m.structures.map (·.id.name))).find? isFree with
  | some suffix => .ok (candidate member suffix)
  | none => .error (.refactoredNameExhausted member)

def isBuildable (kind : ShapeKind) : Bool :=
  match kind with
  | .operation _ _ _ | .service _ _ | .member _ => false
  | _ => true

/-- Extracts the constraints of a member into a copy of its target; nothing if it has none. -/
def extract (m : Model) (taken : ShapeIds) (member : Shape) : Except Error (Option Extract) := do
  if !member.traits.isConstrained then return none
  let target ← m.memberTarget member
  if !isBuildable target.kind then
    throw (.unbuildableConstrainedTarget member.id target.id)
  let id ← freshId m taken member.id
  let members ← target.kind.ownedMembers.mapM fun owned => do
    let s ← m.expect owned
    return s.copyTo (id.withMember s.memberName)
  return some {
    shape := (target.copyTo id).withTraits
      (member.traits.constraints.insert (.refactored member.id))
    members
    member := (member.withTraits member.traits.withoutConstraints).retarget id }

/-- What a run has met so far: the ids visited, the ids taken, and the extracts in order. -/
structure State where
  visited : ShapeIds := ∅
  taken : ShapeIds := ∅
  extracts : List Extract := []

/-- Extracts from the members of a list in order. -/
def visitMembers (m : Model) (st : State) : List Shape → Except Error State
  | [] => .ok st
  | member :: rest => do
    match ← extract m st.taken member with
    | none => visitMembers m st rest
    | some e =>
      visitMembers m
        { st with taken := st.taken.insert e.shape.id, extracts := st.extracts ++ [e] } rest

/-- Extracts from the members of the structures of a list in order. -/
def visitShapes (m : Model) (st : State) : List Shape → Except Error State
  | [] => .ok st
  | s :: rest => do
    if s.isStructure then
      let members ← m.membersOf s
      visitShapes m (← visitMembers m st members) rest
    else visitShapes m st rest

/-- Visits what is reachable from each root in order. -/
def visitRoots (m : Model) (st : State) : List ShapeId → Except Error State
  | [] => .ok st
  | root :: rest => do
    discard <| m.expect root
    let (found, visited) := m.walk root st.visited
    visitRoots m (← visitShapes m { st with visited } found) rest

/-- The input and the output of every operation, in the order of the operations. -/
def roots (m : Model) : List ShapeId :=
  m.operations.flatMap fun s =>
    match s.kind with
    | .operation input output _ => input.toList ++ output.toList
    | _ => []

def Extract.shapes (e : Extract) : List Shape :=
  e.shape :: e.members ++ [e.member]

end Extraction

namespace Model

/-- Moves the constraints of every structure member reachable from an operation's input or output
to a shape of their own, which the member then targets. -/
def extractConstraints (m : Model) : Except Error Model := do
  let st ← Extraction.visitRoots m {} (Extraction.roots m)
  if st.extracts.isEmpty then return m
  let result := m.insertAll (st.extracts.flatMap Extraction.Extract.shapes)
  result.validate
  return result

end Model

end CrateGen
