import CrateGen.Code.Basic
import CrateGen.EventStream.Frame
import CrateGen.Json.Fault
import Std.Data.ExtTreeMap

namespace CrateGen.EventStream

/-- A decoded value. Documents are what the parsers of the protocol give. -/
inductive Value (Doc : Type) where
  | bool (b : Bool)
  | byte (n : Int8)
  | int16 (n : Int16)
  | int32 (n : Int32)
  | int64 (n : Int64)
  | blob (bytes : Bytes)
  | string (s : String)
  | timestamp (n : Int64)
  | document (d : Doc)

/-- The fields of a structure by the names of its members. -/
abbrev Fields (Doc : Type) := Std.ExtTreeMap String (Value Doc)

/-- What an event holds: a value of its own, or fields put together. -/
inductive Content (Doc : Type) where
  | value (v : Value Doc)
  | fields (fs : Fields Doc)

/-- The error that the protocol puts into every exception. -/
structure GenericError where
  code : Option String := none
  message : Option String := none
deriving DecidableEq

inductive DecodedEvent (Doc : Type) where
  | variant (name : String) (content : Content Doc)
  /-- An event whose type is not known. -/
  | unknown

inductive DecodedError (Doc : Type) where
  | modeled (name : String) (fields : Fields Doc) (generic : Option GenericError)
  /-- An exception that is not modeled or cannot be parsed as modeled. -/
  | generic (e : GenericError)
  /-- Not even the generic error could be parsed. -/
  | unhandled (reason : String)

inductive Decoded (Doc : Type) where
  | event (e : DecodedEvent Doc)
  | error (e : DecodedError Doc)

/-- The parsers that a plan refers to by their types. -/
structure Decoder (Doc : Type) where
  payload (parser : RuntimeType Code) (bytes : Bytes) : Except String (Value Doc)
  error (parser : RuntimeType Code) (bytes : Bytes) : Except String (Fields Doc)
  genericError (parser : RuntimeType Code) (bytes : Bytes) : Except String GenericError

namespace JsonDecoder

open Json (Found)

/-- Space, tab, line feed, carriage return and form feed. -/
def isSpaceByte (b : UInt8) : Bool :=
  b == 0x20 || b == 0x09 || b == 0x0A || b == 0x0D || b == 0x0C

/-- The value of a payload; a blank payload is an empty object. -/
def parse (bytes : Bytes) : Except String Json.Value :=
  if bytes.all isSpaceByte then .ok (.object [])
  else
    match bytes.text?.bind fun s => Json.Value.parse? s.toList with
    | some v => .ok v
    | none => .error "invalid JSON"

/-- What a value is when something else was expected. -/
def found : Json.Value → Found
  | .null => .null
  | .boolean b => .boolean b
  | .number n => .number n
  | .string s => .string s
  | .array _ => .sequence
  | .object _ => .map

def optionalString : Json.Value → Except Json.Fault (Option String)
  | .null => .ok none
  | .string s => .ok (some s)
  | v => .error (.invalidType (found v) "a string")

/-- Reads the members of an object in order; code and message each have two names but one
value. -/
def readMembers (code message : Option (Option String)) :
    List (String × Json.Value) → Except Json.Fault GenericError
  | [] => .ok { code := code.getD none, message := message.getD none }
  | (key, v) :: rest => do
    if key == "code" || key == "__type" then
      if code.isSome then throw (.duplicateField "code")
      readMembers (some (← optionalString v)) message rest
    else if key == "message" || key == "Message" then
      if message.isSome then throw (.duplicateField "message")
      readMembers code (some (← optionalString v)) rest
    else readMembers code message rest

/-- A generic error is an object, or an array of its code and message. -/
def genericError : Json.Value → Except Json.Fault GenericError
  | .object members => readMembers none none members
  | .array [] => .ok {}
  | .array [code] => return { code := ← optionalString code }
  | .array (code :: message :: rest) => do
    let code ← optionalString code
    let message ← optionalString message
    if rest.isEmpty then return { code, message }
    else throw (.invalidLength (rest.length + 2) "fewer elements in array")
  | v => .error (.invalidType (found v) "struct GenericError")

end JsonDecoder

/-- Decodes payloads in JSON, whatever the parser. -/
def jsonDecoder : Decoder Json.Value where
  payload _ bytes := .document <$> JsonDecoder.parse bytes
  error _ bytes := do
    match ← JsonDecoder.parse bytes with
    | .object members => return .ofList (members.map fun (k, v) => (k, Value.document v))
    | _ => throw "error payload is not a JSON object"
  genericError _ bytes := do
    let v ← JsonDecoder.parse bytes
    (JsonDecoder.genericError v).mapError fun f => f.message?.getD ""

end CrateGen.EventStream
