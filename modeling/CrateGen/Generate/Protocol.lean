import CrateGen.Generate.Context

namespace CrateGen

/-- The parsers that a wire protocol has for an operation. They are known by their paths only. -/
structure Protocol where
  /-- The absolute id of the protocol. -/
  name : String
  /-- The parser of an operation that reads a member's target from a payload. -/
  payloadParser (operation member : Shape) : Except Error (RuntimeType Code)
  /-- The parser of an operation that fills the builder of an error, if there is one. -/
  errorParser (operation error : Shape) : Except Error (Option (RuntimeType Code))
  /-- The parser of the error that every exception carries. -/
  genericErrorParser (operation : Shape) : RuntimeType Code

/-- Protocols by id, each for the context of a run. -/
abbrev ProtocolTable := Std.ExtTreeMap String (Context → Protocol)

namespace Protocol

def parserName (s : Shape) : String :=
  Name.snakeCase s.id.name

def parserModule (s : Shape) : String :=
  "crate::protocol_serde::shape_" ++ parserName s

/-- Payloads in JSON. -/
def json (name : String) (ctx : Context) : Protocol where
  name
  payloadParser _ member := do
    let target ← ctx.model.memberTarget member
    return { path := parserModule target ++ "::de_" ++ parserName target ++ "_payload" }
  errorParser _ s :=
    if !s.isStructure then .error (.unexpectedShapeKind s.id "structure")
    else if !s.isError then .ok none
    else .ok (some { path := parserModule s ++ "::de_" ++ parserName s ++ "_json_err" })
  genericErrorParser _ := { path := "crate::json_errors::parse_event_stream_error_metadata" }

end Protocol

namespace ProtocolTable

def default : ProtocolTable :=
  .ofList <|
    ["aws.protocols#restJson1", "aws.protocols#awsJson1_0", "aws.protocols#awsJson1_1"].map
      fun name => (name, Protocol.json name)

/-- The protocol that a service declares. -/
def select (table : ProtocolTable) (service : Shape) : Except Error (Context → Protocol) :=
  match service.kind with
  | .service _ _ =>
    match service.protocol?.bind (table[·]?) with
    | some protocol => .ok protocol
    | none => .error (.unsupportedProtocol service.id service.protocol?)
  | _ => .error (.unexpectedShapeKind service.id "service")

end ProtocolTable

end CrateGen
