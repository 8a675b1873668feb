import CrateGen.EventStream.Plan
import CrateGen.Text.Quoted

namespace CrateGen.EventStream

open Code (line template block blockTemplate within)

def hole (key : String) : String :=
  r"#{" ++ key ++ r"}"

def paragraph (ls : List String) : String :=
  Text.unlines ls

/-- The module that holds every generated unmarshaller. -/
def unmarshallerModule : Module :=
  .named "event_stream_serde" .hidden

def typeArg (key : String) (t : RuntimeType Code) : String × Arg Code :=
  (key, .type t)

def symbolArg (key : String) (s : Symbol Code) : String × Arg Code :=
  (key, .symbol s)

/-- The expression that fails to decode with a message about `value`. -/
def unmarshalling (message value : String) : String :=
  hole "Error" ++ "::unmarshalling(format!(\"" ++ message ++ ": {}\", " ++ value ++ "))"

/-- The call of a parser on the payload, which fails with a message about `subject`. -/
def parserCall (call subject ending : String) : List String :=
  [call,
   r"    .map_err(|err| {",
   "        " ++ unmarshalling ("failed to unmarshall " ++ subject) "err",
   r"    })?" ++ ending]

def parsePayload (parser : RuntimeType Code) (subject : String) : Code :=
  template (paragraph (parserCall (hole "parser" ++ "(&message.payload()[..])") subject ""))
    [typeArg "parser" parser]

/-- The statement that fills the builder of the error `subject` from the payload. -/
def fillError (subject : String) : List String :=
  parserCall ("builder = " ++ hole "parser" ++ "(&message.payload()[..], builder)") subject ";"

/-- The call of a setter on the builder with the value that `value` writes. -/
def setField (field : String) (isOptional : Bool) (value : Code) : Code :=
  within ("builder = builder." ++ Name.setter field ++ "(") ");"
    (if isOptional then within "Some(" ")" value else value)

def contentTypeGuard (contentType : String) : Code :=
  template (paragraph [
    "let content_type = response_headers.content_type().unwrap_or_default();",
    "if content_type != " ++ Text.quote contentType ++ r" {",
    "    return Err(" ++ hole "Error" ++ "::unmarshalling(format!(",
    "        \"expected :content-type to be '" ++ contentType ++ "', but was '{}'\",",
    "        content_type",
    "    )))",
    r"}"]) []

def payloadValue (binding : PayloadBinding) : Code :=
  match binding.kind with
  | .blob => template (hole "Blob" ++ "::new(message.payload().as_ref())") []
  | .text =>
    template (paragraph [
      "std::str::from_utf8(message.payload())",
      "    .map_err(|_| " ++ hole "Error" ++
        "::unmarshalling(\"message payload is not valid UTF-8\"))?",
      "    .to_owned()"]) []
  | .structured parser => parsePayload parser binding.field

def writePayload (binding : PayloadBinding) : Code :=
  (match binding.kind.contentType? with
    | some contentType => contentTypeGuard contentType
    | none => .nothing) ++
  setField binding.field binding.isOptional (payloadValue binding)

/-- The function of the runtime that reads a header of the type. -/
def HeaderType.reader (type : HeaderType) : String :=
  "expect_" ++ type.name

def writeHeader (binding : HeaderBinding) : Code :=
  block (Text.quote binding.member ++ " =>")
    (setField binding.field binding.isOptional
      (template (hole "expect_fns" ++ "::" ++ binding.type.reader ++ "(header)?") []))

def writeHeaders (bindings : List HeaderBinding) : Code :=
  block "for header in message.headers()"
    (block "match header.name().as_str()"
      (Code.join (bindings.map writeHeader) ++
        .comment .plain "Event stream protocol headers start with ':'" ++
        block "name => if !name.starts_with(':')"
          (template
            (hole "tracing" ++
              "::trace!(\"Unrecognized event stream message header: {}\", name);")
            [])))

def eventResult (variant content : String) : String :=
  "Ok(" ++ hole "UnmarshalledMessage" ++ "::Event(" ++ hole "Output" ++ "::" ++ variant ++ "(" ++
    content ++ ")))"

def writeBody (variant : String) : EventBody → Code
  | .empty type =>
    template (eventResult variant (hole "UnionStruct" ++ "::builder().build()"))
      [symbolArg "UnionStruct" type]
  | .payloadOnly parser =>
    within "let parsed =" ";" (parsePayload parser variant) ++
      template (eventResult variant "parsed") []
  | .bound builder payload headers =>
    template ("let mut builder = " ++ hole "builder" ++ "::default();")
      [symbolArg "builder" builder] ++
    (match payload with
      | some binding => writePayload binding
      | none => .nothing) ++
    (if headers.isEmpty then .nothing else writeHeaders headers) ++
    template (eventResult variant "builder.build()") []

def writeEvent (branch : EventBranch) : Code :=
  block (Text.quote branch.eventType ++ " =>") (writeBody branch.variant branch.body)

/-- The arm of events that have no arm of their own. -/
def writeUnknownEvent (target : Target) : Code :=
  block "_unknown_variant =>"
    (if target.rendersUnknownVariant then
      template ("Ok(" ++ hole "UnmarshalledMessage" ++ "::Event(" ++ hole "Output" ++ "::" ++
        unknownVariant ++ "))") []
    else
      template ("return Err(" ++ unmarshalling "unrecognized :event-type" "_unknown_variant" ++
        ");") [])

namespace Plan

variable (plan : Plan)

def writeEvents : Code :=
  block "match response_headers.smithy_type.as_str()"
    (Code.join (plan.events.map writeEvent) ++ writeUnknownEvent plan.target)

/-- What is done for an exception of a modeled type. A client without a parser leaves it to the
generic error. -/
def writeModeledError (branch : ErrorBranch) : Code :=
  let builder := symbolArg "builder" branch.builder
  match plan.target, branch.parser with
  | .client, none => .nothing
  | .client, some parser =>
    template ("let mut builder = " ++ hole "builder" ++ "::default();") [builder] ++
    template (paragraph (fillError branch.eventType ++ [
      "return Ok(" ++ hole "UnmarshalledMessage" ++ "::Error(",
      "    " ++ hole "OpError" ++ "::new(",
      "        " ++ hole "OpError" ++ "Kind::" ++ branch.variant ++ "(builder.build()),",
      "        generic,",
      "    )",
      "))"])) [typeArg "parser" parser]
  | .server, parser =>
    template ((if parser.isSome then "let mut" else "let") ++ " builder = " ++ hole "builder" ++
      "::default();") [builder] ++
    (match parser with
      | some parser => template (paragraph (fillError branch.eventType)) [typeArg "parser" parser]
      | none => .nothing) ++
    template (paragraph [
      "return Ok(" ++ hole "UnmarshalledMessage" ++ "::Error(",
      "    " ++ hole "OpError" ++ "::" ++ branch.variant ++ "(",
      "        builder.build()",
      "    )",
      "))"]) []

/-- The choice among the modeled errors; a single one is tested by a condition. -/
def writeErrorBranches : Code :=
  match plan.errors with
  | [] => .nothing
  | [branch] =>
    block ("if response_headers.smithy_type.as_str() == " ++ Text.quote branch.eventType)
      (plan.writeModeledError branch)
  | branches =>
    block "match response_headers.smithy_type.as_str()"
      (Code.join (branches.map fun branch =>
        block (Text.quote branch.eventType ++ " =>") (plan.writeModeledError branch)) ++
      line "_ => {}")

def writeErrors : Code :=
  (match plan.genericErrorParser with
    | some parser =>
      template (paragraph [
        "let generic = match " ++ hole "parse_generic_error" ++ r"(message.payload()) {",
        "    Ok(generic) => generic,",
        "    Err(err) => return Ok(" ++ hole "UnmarshalledMessage" ++ "::Error(" ++
          hole "OpError" ++ "::unhandled(err))),",
        r"};"]) [typeArg "parse_generic_error" parser]
    | none => .nothing) ++
  plan.writeErrorBranches ++
  match plan.target with
  | .client =>
    template ("Ok(" ++ hole "UnmarshalledMessage" ++ "::Error(" ++ hole "OpError" ++
      "::generic(generic)))") []
  | .server =>
    template (paragraph [
      "return Err(" ++ hole "Error" ++ "::unmarshalling(",
      "    format!(\"unrecognized exception: {}\", response_headers.smithy_type.as_str()),",
      "));"]) []

/-- The keys that every template of an unmarshaller can refer to. -/
def scope : List (String × Arg Code) :=
  let eventStream := plan.runtime.eventStream
  [typeArg "Blob" plan.runtime.blob,
   typeArg "expect_fns" (eventStream.resolve "smithy"),
   typeArg "Message" (eventStream.resolve "frame::Message"),
   typeArg "Error" (eventStream.resolve "error::Error"),
   symbolArg "OpError" plan.error,
   symbolArg "Output" plan.union,
   typeArg "tracing" tracing,
   typeArg "UnmarshalledMessage" (eventStream.resolve "frame::UnmarshalledMessage"),
   typeArg "UnmarshallMessage" (eventStream.resolve "frame::UnmarshallMessage")]

def writeDeclaration : Code :=
  let name := plan.unmarshaller
  line (paragraph [
    "#[non_exhaustive]",
    "#[derive(Debug)]",
    "pub struct " ++ name ++ ";",
    "",
    "impl " ++ name ++ r" {",
    r"    pub fn new() -> Self {",
    "        " ++ name,
    r"    }",
    r"}"])

def writeDispatch : Code :=
  template ("let response_headers = " ++ hole "expect_fns" ++
    "::parse_response_headers(message)?;") [] ++
  block "match response_headers.message_type.as_str()"
    (block "\"event\" =>" plan.writeEvents ++
      block "\"exception\" =>" plan.writeErrors ++
      block "value =>"
        (template ("return Err(" ++ unmarshalling "unrecognized :message-type" "value" ++ ");") []))

def writeUnmarshaller : Code :=
  plan.writeDeclaration ++
  .scope plan.scope
    (blockTemplate ("impl " ++ hole "UnmarshallMessage" ++ " for " ++ plan.unmarshaller) []
      (template ("type Output = " ++ hole "Output" ++ ";") [] ++
        template ("type Error = " ++ hole "OpError" ++ ";") [] ++
        blockTemplate (paragraph [
          "fn unmarshall(",
          "    &self,",
          "    message: &" ++ hole "Message",
          ") -> std::result::Result<" ++ hole "UnmarshalledMessage" ++
            "<Self::Output, Self::Error>, " ++ hole "Error" ++ ">"]) []
          plan.writeDispatch))

/-- The generated unmarshaller, which is written when it is first referred to. -/
def render : RuntimeType Code :=
  .ofInline plan.unmarshaller unmarshallerModule plan.writeUnmarshaller

end Plan

end CrateGen.EventStream
