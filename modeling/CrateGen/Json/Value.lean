import CrateGen.Json.Document

namespace CrateGen.Json

/-- A value of the format. Members of an object are in ascending order of their keys, one for
each key, when the object was read from a text. -/
inductive Value where
  | null
  | boolean (b : Bool)
  | number (n : Number)
  | string (s : String)
  | array (items : List Value)
  | object (members : List (String × Value))

/-- Puts a member in its place; a later member with the same key replaces an earlier one. -/
def insertMember (key : String) (value : Value) : List (String × Value) → List (String × Value)
  | [] => [(key, value)]
  | (k, v) :: rest =>
    match compare key k with
    | .lt => (key, value) :: (k, v) :: rest
    | .eq => (key, value) :: rest
    | .gt => (k, v) :: insertMember key value rest

mutual

/-- The value of a document without flaws whose aggregates are nested less than `depth` deep. -/
def Document.toValue? (depth : Nat) : Document → Option Value
  | .null => some .null
  | .boolean b => some (.boolean b)
  | .number n => n.value?.map .number
  | .string s => s.map .string
  | .array items closed =>
    if closed && 1 < depth then (itemValues? (depth - 1) items).map .array else none
  | .object members closed =>
    if closed && 1 < depth then
      (memberValues? (depth - 1) members).map fun ms =>
        .object (ms.foldl (fun sorted (k, v) => insertMember k v sorted) [])
    else none
  | .broken => none

def itemValues? (depth : Nat) : List Document → Option (List Value)
  | [] => some []
  | item :: rest => do
    let value ← item.toValue? depth
    let values ← itemValues? depth rest
    return value :: values

def memberValues? (depth : Nat) :
    List (Option String × Document) → Option (List (String × Value))
  | [] => some []
  | (key, doc) :: rest => do
    let key ← key
    let value ← doc.toValue? depth
    let members ← memberValues? depth rest
    return (key, value) :: members

end

/-- The value of a whole text, nested at most 127 deep. -/
def Value.parse? (cs : List Char) : Option Value :=
  match Document.read cs with
  | (doc, true) => doc.toValue? 128
  | (_, false) => none

end CrateGen.Json
