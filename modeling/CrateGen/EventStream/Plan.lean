import CrateGen.EventStream.Frame
import CrateGen.Generate.Protocol

namespace CrateGen.EventStream

/-- How the payload of a frame becomes a member. -/
inductive PayloadKind where
  | blob
  | text
  | structured (parser : RuntimeType Code)

def PayloadKind.contentType? : PayloadKind → Option String
  | .blob => some "application/octet-stream"
  | .text => some "text/plain"
  | .structured _ => none

/-- A member that is read from the payload, and the field of the builder that takes it. -/
structure PayloadBinding where
  member : String
  field : String
  isOptional : Bool
  kind : PayloadKind

structure HeaderBinding where
  member : String
  field : String
  isOptional : Bool
  type : HeaderType
deriving DecidableEq

/-- How the content of an event is put together. -/
inductive EventBody where
  /-- The structure has no members, and the payload is not read. -/
  | empty (type : Symbol Code)
  /-- The whole payload is the structure. -/
  | payloadOnly (parser : RuntimeType Code)
  /-- Members are read from the payload and from headers. -/
  | bound (builder : Symbol Code) (payload : Option PayloadBinding) (headers : List HeaderBinding)

/-- A member of the union that is an event. -/
structure EventBranch where
  eventType : String
  variant : String
  body : EventBody

/-- A member of the union that is an error. -/
structure ErrorBranch where
  eventType : String
  /-- The error structure, which is also the variant of the error type. -/
  variant : String
  builder : Symbol Code
  parser : Option (RuntimeType Code)

/-- All that is needed to decode the frames of an event stream. -/
structure Plan where
  unmarshaller : String
  union : Symbol Code
  error : Symbol Code
  target : Target
  runtime : RuntimePackages
  events : List EventBranch
  errors : List ErrorBranch
  genericErrorParser : Option (RuntimeType Code)

def unknownVariant : String :=
  "Unknown"

/-- The event stream of an operation: the first streaming union among the targets of the members
of its output. -/
def unionOf? (m : Model) (operation : Shape) : Option Shape := do
  let .operation _ (some output) _ := operation.kind | none
  let output ← m.get? output
  let targets := output.memberIds.filterMap fun id => do
    (m.memberTarget (← m.get? id)).toOption
  targets.find? fun s => s.isUnion && s.traits.contains .streaming

/-- The header type for a scalar type; floats have none. -/
def HeaderType.ofPrimitive? : Primitive → Option HeaderType
  | .boolean => some .bool
  | .byte => some .byte
  | .short => some .int16
  | .integer => some .int32
  | .long => some .int64
  | .blob => some .byteArray
  | .string => some .string
  | .timestamp => some .timestamp
  | .float | .double => none

namespace Plan

variable (ctx : Context) (protocol : Protocol) (operation : Shape)

def payloadKind (member target : Shape) : Except Error PayloadKind :=
  match target.kind with
  | .primitive .blob => .ok .blob
  | .primitive .string => .ok .text
  | .structure _ | .union _ => .structured <$> protocol.payloadParser operation member
  | _ => .error (.unexpectedShapeKind target.id "blob, string, structure or union")

def payloadBinding (member : Shape) : Except Error PayloadBinding := do
  let target ← ctx.model.memberTarget member
  let kind ← payloadKind protocol operation member target
  return {
    member := member.memberName
    field := ctx.symbols.memberName member
    isOptional := !member.isRequired
    kind }

def headerBinding (member : Shape) : Except Error HeaderBinding := do
  let target ← ctx.model.memberTarget member
  match target.primitive?.bind HeaderType.ofPrimitive? with
  | some type =>
    return {
      member := member.memberName
      field := ctx.symbols.memberName member
      isOptional := !member.isRequired
      type }
  | none => throw (.unsupportedEventHeader member.id target.id)

/-- How the event of a union member with a target of the given fields is put together. -/
def eventBody (member target : Shape) (fields : List Shape) : Except Error EventBody := do
  let isPayload (s : Shape) := s.traits.contains .eventPayload
  let isHeader (s : Shape) := s.traits.contains .eventHeader
  if fields.isEmpty then return .empty (← ctx.symbols.symbol target)
  else if !fields.any fun f => isPayload f || isHeader f then
    return .payloadOnly (← protocol.payloadParser operation member)
  else
    let payload ← (fields.find? isPayload).mapM (payloadBinding ctx protocol operation)
    let headers ← (fields.filter isHeader).mapM (headerBinding ctx)
    return .bound (← ctx.symbols.symbol target).builder payload headers

/-- The branch of a union member, whose target must be a structure. -/
def branch (member : Shape) : Except Error (EventBranch ⊕ ErrorBranch) := do
  let target ← ctx.model.memberTarget member
  if !target.isStructure then throw (.unexpectedShapeKind target.id "structure")
  let eventType := member.memberName
  if target.isError then
    return .inr {
      eventType
      variant := target.id.name
      builder := (← ctx.symbols.symbol target).builder
      parser := ← protocol.errorParser operation target }
  else
    let fields ← ctx.model.membersOf target
    let body ← eventBody ctx protocol operation member target fields
    return .inl { eventType, variant := ctx.symbols.memberName member, body }

/-- The error type of an unmarshaller. A server without modeled errors has only the general
one. -/
def errorSymbol (union : Symbol Code) (errors : List ErrorBranch) : Symbol Code :=
  if ctx.target = .server && errors.isEmpty then
    .ofRuntimeType (ctx.runtime.http.resolve "event_stream::MessageStreamError")
  else .named (union.name ++ "Error") "crate::types::error"

/-- The plan for a union, the event stream of an operation. Members that target errors become
error branches and all others event branches. -/
def build (union : Shape) : Except Error Plan := do
  if !union.isUnion then throw (.unexpectedShapeKind union.id "union")
  let symbol ← ctx.symbols.symbol union
  let members ← ctx.model.membersOf union
  let branches ← members.mapM (branch ctx protocol operation)
  let errors := branches.filterMap Sum.getRight?
  return {
    unmarshaller := Name.pascalCase symbol.name ++ "Unmarshaller"
    union := symbol
    error := errorSymbol ctx symbol errors
    target := ctx.target
    runtime := ctx.runtime
    events := branches.filterMap Sum.getLeft?
    errors
    genericErrorParser := match ctx.target with
      | .client => some (protocol.genericErrorParser operation)
      | .server => none }

end Plan

end CrateGen.EventStream
