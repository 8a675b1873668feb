import CrateGen.EventStream.Decoder
import CrateGen.EventStream.Plan

namespace CrateGen.EventStream

variable {Doc : Type}

def HeaderValue.read? : HeaderType → HeaderValue → Option (Value Doc)
  | .bool, .bool b => some (.bool b)
  | .byte, .byte n => some (.byte n)
  | .int16, .int16 n => some (.int16 n)
  | .int32, .int32 n => some (.int32 n)
  | .int64, .int64 n => some (.int64 n)
  | .byteArray, .byteArray bytes => some (.blob bytes)
  | .string, .string s => some (.string s)
  | .timestamp, .timestamp n => some (.timestamp n)
  | _, _ => none

def Header.read (type : HeaderType) (h : Header) : Except DecodeError (Value Doc) :=
  match h.value.read? type with
  | some v => .ok v
  | none => .error (.headerType h.name type h.value.type)

/-- Checks the content type of a frame; a missing one counts as empty. -/
def PayloadKind.checkContentType (kind : PayloadKind) (routing : Routing) :
    Except DecodeError Unit :=
  match kind.contentType? with
  | none => .ok ()
  | some expected =>
    let actual := routing.contentType.getD ""
    if actual == expected then .ok () else .error (.contentTypeMismatch expected actual)

namespace Plan

variable (plan : Plan) (decoder : Decoder Doc) (routing : Routing) (frame : Frame)

def readPayload (binding : PayloadBinding) : Except DecodeError (Value Doc) := do
  binding.kind.checkContentType routing
  match binding.kind with
  | .blob => return .blob frame.payload
  | .text =>
    match Bytes.text? frame.payload with
    | some s => return .string s
    | none => throw .invalidUtf8
  | .structured parser =>
    (decoder.payload parser frame.payload).mapError (.payload binding.field)

/-- Sets the fields bound to headers, in the order of the headers; other headers are passed
over. -/
def readHeaders (bindings : List HeaderBinding) (fields : Fields Doc) :
    List Header → Except DecodeError (Fields Doc)
  | [] => .ok fields
  | h :: rest => do
    match bindings.find? (·.member == h.name) with
    | some binding =>
      readHeaders bindings (fields.insert binding.member (← h.read binding.type)) rest
    | none => readHeaders bindings fields rest

def readBody (branch : EventBranch) : Except DecodeError (Content Doc) :=
  match branch.body with
  | .empty _ => .ok (.fields ∅)
  | .payloadOnly parser =>
    match decoder.payload parser frame.payload with
    | .ok v => .ok (.value v)
    | .error source => .error (.payload branch.variant source)
  | .bound _ payload headers => do
    let fields ← match payload with
      | some binding => do
        let v ← readPayload decoder routing frame binding
        pure ((∅ : Fields Doc).insert binding.member v)
      | none => pure ∅
    return .fields (← readHeaders headers fields frame.headers)

def unmarshalEvent : Except DecodeError (DecodedEvent Doc) :=
  match plan.events.find? (·.eventType == routing.type) with
  | some branch => (readBody decoder routing frame branch).map (.variant branch.variant)
  | none =>
    if plan.target.rendersUnknownVariant then .ok .unknown
    else .error (.unrecognizedEventType routing.type)

/-- The error of an exception, given the generic error if the plan asks for it. -/
def unmarshalException (generic : Option GenericError) :
    Except DecodeError (DecodedError Doc) :=
  let fallback : Except DecodeError (DecodedError Doc) :=
    match generic with
    | some e => .ok (.generic e)
    | none => .error (.unrecognizedException routing.type)
  match plan.errors.find? (·.eventType == routing.type) with
  | none => fallback
  | some branch =>
    match branch.parser, plan.target with
    | some parser, _ =>
      match decoder.error parser frame.payload with
      | .ok fields => .ok (.modeled branch.variant fields generic)
      | .error source => .error (.payload branch.eventType source)
    | none, .server => .ok (.modeled branch.variant ∅ none)
    | none, .client => fallback

def unmarshalError : Except DecodeError (DecodedError Doc) :=
  match plan.genericErrorParser with
  | none => plan.unmarshalException decoder routing frame none
  | some parser =>
    match decoder.genericError parser frame.payload with
    | .ok generic => plan.unmarshalException decoder routing frame (some generic)
    | .error reason => .ok (.unhandled reason)

end Plan

/-- Decodes a frame as the generated unmarshaller of a plan does. -/
def Plan.unmarshal (plan : Plan) (decoder : Decoder Doc) (frame : Frame) :
    Except DecodeError (Decoded Doc) := do
  let routing ← Routing.ofFrame frame
  if routing.messageType == "event" then
    .event <$> plan.unmarshalEvent decoder routing frame
  else if routing.messageType == "exception" then
    .error <$> plan.unmarshalError decoder routing frame
  else throw (.unrecognizedMessageType routing.messageType)

end CrateGen.EventStream
