import CrateGen.Json.Printer
import CrateGen.Text.Quoted

namespace CrateGen.Json

/-- What stands where something else was expected. -/
inductive Found where
  | null
  | boolean (b : Bool)
  | number (n : Number)
  | string (s : String)
  | sequence
  | map

def Found.describe : Found → String
  | .null => "null"
  | .boolean b => "boolean `" ++ toString b ++ "`"
  | .number (.integer n) => "integer `" ++ toString n ++ "`"
  | .number (.float x) => "floating point `" ++ floatStyle.formatFloat x ++ "`"
  | .string s => "string " ++ Text.quote s
  | .sequence => "sequence"
  | .map => "map"

/-- Why a text does not give the data that was asked for. -/
inductive Fault where
  | malformed
  | invalidType (found : Found) (expected : String)
  | invalidLength (length : Nat) (expected : String)
  | missingField (name : String)
  | duplicateField (name : String)
  | unknownVariant (name : String) (expected : List String)
  | invalidShapeId (raw : String)

/-- The message of a fault in the data; a malformed text has none. -/
def Fault.message? : Fault → Option String
  | .malformed => none
  | .invalidType found expected =>
    some ("invalid type: " ++ found.describe ++ ", expected " ++ expected)
  | .invalidLength length expected =>
    some ("invalid length " ++ toString length ++ ", expected " ++ expected)
  | .missingField name => some ("missing field `" ++ name ++ "`")
  | .duplicateField name => some ("duplicate field `" ++ name ++ "`")
  | .unknownVariant name expected =>
    some ("unknown variant `" ++ name ++ "`, expected " ++
      " or ".intercalate (expected.map fun e => "`" ++ e ++ "`"))
  | .invalidShapeId raw => some ("invalid shape id `" ++ raw ++ "`")

/-- What a document is when something else was expected; the inside of aggregates is not looked
at. -/
def Document.found : Document → Except Fault Found
  | .null => .ok .null
  | .boolean b => .ok (.boolean b)
  | .number n =>
    match n.value? with
    | some v => .ok (.number v)
    | none => .error .malformed
  | .string (some s) => .ok (.string s)
  | .string none => .error .malformed
  | .array _ _ => .ok .sequence
  | .object _ _ => .ok .map
  | .broken => .error .malformed

def Document.mismatch (doc : Document) (expected : String) : Except Fault α := do
  throw (.invalidType (← doc.found) expected)

end CrateGen.Json
