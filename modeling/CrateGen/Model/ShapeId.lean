import CrateGen.Text.Lines
import Std.Data.ExtTreeSet

namespace CrateGen

/-- The absolute name of a shape: `namespace#Name`, or `namespace#Name$member` for a member of
an aggregate. -/
structure ShapeId where
  ns : String
  name : String
  member : Option String
deriving DecidableEq

namespace ShapeId

/-- Ids are ordered by namespace, then name, then member; a root comes before its members. -/
instance : Ord ShapeId where
  compare := compareLex (compareOn ns) (compareLex (compareOn name) (compareOn member))

instance : Std.TransOrd ShapeId :=
  inferInstanceAs <| Std.TransCmp <|
    compareLex (compareOn ns) (compareLex (compareOn name) (compareOn member))

instance : Std.LawfulEqOrd ShapeId where
  eq_of_compare {a b} h := by
    obtain ⟨hns, h⟩ := Ordering.then_eq_eq.mp h
    obtain ⟨hname, hmember⟩ := Ordering.then_eq_eq.mp h
    cases a
    cases b
    simp only [ShapeId.mk.injEq]
    exact ⟨Std.LawfulEqOrd.eq_of_compare hns, Std.LawfulEqOrd.eq_of_compare hname,
      Std.LawfulEqOrd.eq_of_compare hmember⟩

/-- A letter or underscore, then letters, digits and underscores, all ASCII. -/
def isIdentifier : List Char → Bool
  | [] => false
  | c :: rest => (c.isAlpha || c == '_') && rest.all fun d => d.isAlphanum || d == '_'

def root (ns name : String) : ShapeId :=
  ⟨ns, name, none⟩

/-- Reads an id whose namespace is a dotted list of identifiers and whose other parts are
identifiers. -/
def parse? (raw : String) : Option ShapeId := do
  let (ns, rest) ← Text.splitFirst? '#' raw.toList
  let (name, member) := match Text.splitFirst? '$' rest with
    | some (name, member) => (name, some member)
    | none => (rest, none)
  guard <| (Text.splitAt '.' ns).all isIdentifier && isIdentifier name && member.all isIdentifier
  return ⟨.ofList ns, .ofList name, member.map .ofList⟩

def display (id : ShapeId) : String :=
  id.ns ++ "#" ++ id.name ++ match id.member with
    | some member => "$" ++ member
    | none => ""

def withMember (id : ShapeId) (member : String) : ShapeId :=
  { id with member := some member }

/-- The id of the shape that contains a member; a root's own id. -/
def container (id : ShapeId) : ShapeId :=
  { id with member := none }

def withName (id : ShapeId) (name : String) : ShapeId :=
  root id.ns name

end ShapeId

end CrateGen
