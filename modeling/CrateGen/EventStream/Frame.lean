namespace CrateGen.EventStream

abbrev Bytes := List UInt8

def Bytes.text? (bytes : Bytes) : Option String :=
  String.fromUTF8? ⟨bytes.toArray⟩

inductive HeaderValue where
  | bool (b : Bool)
  | byte (n : Int8)
  | int16 (n : Int16)
  | int32 (n : Int32)
  | int64 (n : Int64)
  | byteArray (bytes : Bytes)
  | string (s : String)
  /-- Milliseconds since 1970. -/
  | timestamp (n : Int64)
deriving DecidableEq

inductive HeaderType where
  | bool
  | byte
  | int16
  | int32
  | int64
  | byteArray
  | string
  | timestamp
deriving DecidableEq

def HeaderType.name : HeaderType → String
  | .bool => "bool"
  | .byte => "byte"
  | .int16 => "int16"
  | .int32 => "int32"
  | .int64 => "int64"
  | .byteArray => "byte_array"
  | .string => "string"
  | .timestamp => "timestamp"

namespace HeaderValue

def type : HeaderValue → HeaderType
  | bool _ => .bool
  | byte _ => .byte
  | int16 _ => .int16
  | int32 _ => .int32
  | int64 _ => .int64
  | byteArray _ => .byteArray
  | string _ => .string
  | timestamp _ => .timestamp

def string? : HeaderValue → Option String
  | string s => some s
  | _ => none

end HeaderValue

structure Header where
  name : String
  value : HeaderValue
deriving DecidableEq

structure Frame where
  headers : List Header := []
  payload : Bytes := []
deriving DecidableEq

/-- Why a frame cannot be decoded. -/
inductive DecodeError where
  | unrecognizedMessageType (type : String)
  | unrecognizedEventType (type : String)
  | unrecognizedException (type : String)
  | contentTypeMismatch (expected actual : String)
  | invalidUtf8
  | payload (member source : String)
  | missingHeader (name : String)
  | headerType (name : String) (expected actual : HeaderType)
deriving DecidableEq

def DecodeError.message : DecodeError → String
  | unrecognizedMessageType type => "unrecognized :message-type: " ++ type
  | unrecognizedEventType type => "unrecognized :event-type: " ++ type
  | unrecognizedException type => "unrecognized exception: " ++ type
  | contentTypeMismatch expected actual =>
    "expected :content-type to be '" ++ expected ++ "', but was '" ++ actual ++ "'"
  | invalidUtf8 => "message payload is not valid UTF-8"
  | payload member source => "failed to unmarshall " ++ member ++ ": " ++ source
  | missingHeader name => "missing header `" ++ name ++ "`"
  | headerType name expected actual =>
    "header `" ++ name ++ "` is a " ++ actual.name ++ ", expected a " ++ expected.name

namespace Frame

def header? (f : Frame) (name : String) : Option HeaderValue :=
  (f.headers.find? (·.name == name)).map Header.value

def stringHeader (f : Frame) (name : String) : Except DecodeError (Option String) :=
  match f.header? name with
  | none => .ok none
  | some value =>
    match value.string? with
    | some s => .ok (some s)
    | none => .error (.headerType name .string value.type)

/-- The text of a header that must be there, or else the error. -/
def requireHeader (f : Frame) (name reported : String) : Except DecodeError String := do
  match ← f.stringHeader name with
  | some s => return s
  | none => throw (.missingHeader reported)

end Frame

/-- The headers that say how a frame is decoded. -/
structure Routing where
  messageType : String
  /-- The type of an event or an exception, and nothing for other messages. -/
  type : String
  contentType : Option String
deriving DecidableEq

/-- Reads the routing headers. The type of an exception may stand in the header of events. -/
def Routing.ofFrame (f : Frame) : Except DecodeError Routing := do
  let messageType ← f.requireHeader ":message-type" ":message-type"
  let type ←
    if messageType == "event" then f.requireHeader ":event-type" ":event-type"
    else if messageType == "exception" then do
      match ← f.stringHeader ":exception-type" with
      | some type => pure type
      | none => f.requireHeader ":event-type" ":exception-type"
    else pure ""
  let contentType ← f.stringHeader ":content-type"
  return { messageType, type, contentType }

end CrateGen.EventStream
