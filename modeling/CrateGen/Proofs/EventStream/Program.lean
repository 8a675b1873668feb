import CrateGen.EventStream.Unmarshal
import CrateGen.EventStream.Unmarshaller
import CrateGen.Proofs.Code.Writes

namespace CrateGen.EventStream

open Template (Part fill sheet)

inductive Subject where
  | messageType
  | eventType

inductive Expr where
  | blob
  | text
  /-- The call of a parser on the payload, which fails with a message about `subject`. -/
  | parse (parser : RuntimeType Code) (subject : String)
  /-- The call of a function of the runtime on the header at hand. -/
  | header (reader : String)

inductive Held where
  | built (type : Symbol Code)
  | parsed
  | builder

inductive Stmt where
  | skip
  | seq (first second : Stmt)
  | letBuilder (isMutable : Bool) (type : Symbol Code)
  | letParsed (value : Expr)
  /-- Binds the generic error, or returns that not even it can be parsed. -/
  | letGeneric (parser : RuntimeType Code)
  | checkContentType (expected : String)
  | set (field : String) (isOptional : Bool) (value : Expr)
  /-- Fills the builder of the error `subject` from the payload. -/
  | fillBuilder (parser : RuntimeType Code) (subject : String)
  /-- Fills the builder and returns the modeled error in it together with the generic one. -/
  | fillAndReturn (parser : RuntimeType Code) (subject variant : String)
  /-- Runs the arm of the name of each header in turn; other headers are passed over. -/
  | forHeaders (arms : List (String × Stmt))
  /-- Runs the first arm with the label that is chosen, or the last arm, which binds it. -/
  | choose (subject : Subject) (arms : List (String × Stmt)) (binder : String) (last : Stmt)
  /-- Runs the first arm with the type of the event, if there is one. -/
  | chooseType (arms : List (String × Stmt))
  | ifType (label : String) (body : Stmt)
  | event (variant : String) (held : Held)
  | unknownEvent
  /-- Returns the modeled error in the builder. -/
  | returnPlainError (variant : String)
  | genericError
  /-- Fails with a message about what `binder` stands for. -/
  | fail (message binder : String)
  | failException

instance : Append Stmt :=
  ⟨.seq⟩

/-! ## The text of statements -/

/-- The names that the shared keys of templates stand for. -/
abbrev Names := String → String

def Subject.text : Subject → String
  | .messageType => "response_headers.message_type.as_str()"
  | .eventType => "response_headers.smithy_type.as_str()"

namespace Printing

def item (lines : List (List Part)) : List Entry :=
  [⟨.marked, 0, fill (sheet lines)⟩]

def braces (header : String) (body : List Entry) : List Entry :=
  Entry.block .marked (header ++ r" {") r"}" body

variable (n : Names)

def shared (key : String) : Part :=
  .hole key (n key)

def unmarshalling (message value : List Part) : List Part :=
  [shared n "Error", .text "::unmarshalling(format!(\""] ++ message ++ [.text ": {}\", "] ++
    value ++ [.text "))"]

def parserCall (call : List Part) (subject last : String) : List (List Part) :=
  [call,
   [.text r"    .map_err(|err| {"],
   .text "        " ::
    unmarshalling n [.text "failed to unmarshall ", .text subject] [.text "err"],
   [.text last]]

def parse (parser : RuntimeType Code) (subject : String) : List (List Part) :=
  parserCall n [.hole "parser" parser.path, .text "(&message.payload()[..])"] subject
    r"    })?"

def fillBuilder (parser : RuntimeType Code) (subject : String) : List (List Part) :=
  parserCall n
    [.text "builder = ", .hole "parser" parser.path, .text "(&message.payload()[..], builder)"]
    subject r"    })?;"

def expr : Expr → List (List Part)
  | .blob => [[shared n "Blob", .text "::new(message.payload().as_ref())"]]
  | .text =>
    [[.text "std::str::from_utf8(message.payload())"],
     [.text "    .map_err(|_| ", shared n "Error",
      .text "::unmarshalling(\"message payload is not valid UTF-8\"))?"],
     [.text "    .to_owned()"]]
  | .parse parser subject => parse n parser subject
  | .header reader => [[shared n "expect_fns", .text "::", .text reader, .text "(header)?"]]

def contentTypeGuard (expected : String) : List (List Part) :=
  [[.text "let content_type = response_headers.content_type().unwrap_or_default();"],
   [.text "if content_type != ", .text (Text.quote expected), .text r" {"],
   [.text "    return Err(", shared n "Error", .text "::unmarshalling(format!("],
   [.text "        \"expected :content-type to be '", .text expected,
    .text "', but was '{}'\","],
   [.text "        content_type"],
   [.text "    )))"],
   [.text r"}"]]

def letGeneric (parser : RuntimeType Code) : List (List Part) :=
  [[.text "let generic = match ", .hole "parse_generic_error" parser.path,
    .text r"(message.payload()) {"],
   [.text "    Ok(generic) => generic,"],
   [.text "    Err(err) => return Ok(", shared n "UnmarshalledMessage", .text "::Error(",
    shared n "OpError", .text "::unhandled(err))),"],
   [.text r"};"]]

def held : Held → List Part
  | .built type => [.hole "UnionStruct" type.type, .text "::builder().build()"]
  | .parsed => [.text "parsed"]
  | .builder => [.text "builder.build()"]

def eventResult (variant : String) (h : Held) : List Part :=
  [.text "Ok(", shared n "UnmarshalledMessage", .text "::Event(", shared n "Output", .text "::",
    .text variant, .text "("] ++ held h ++ [.text ")))"]

def letBuilder (isMutable : Bool) (type : Symbol Code) : List Part :=
  [.text (if isMutable then "let mut" else "let"), .text " builder = ",
   .hole "builder" type.type, .text "::default();"]

def set (field : String) (isOptional : Bool) (value : Expr) : List Entry :=
  Entry.block .plain ("builder = builder." ++ Name.setter field ++ "(") ");"
    (if isOptional then Entry.block .plain "Some(" ")" (item (expr n value))
      else item (expr n value))

def fail (message binder : String) : List Part :=
  [.text "return Err("] ++ unmarshalling n [.text message] [.text binder] ++ [.text ");"]

def returnError (variant : String) : List (List Part) :=
  [[.text "return Ok(", shared n "UnmarshalledMessage", .text "::Error("],
   [.text "    ", shared n "OpError", .text "::new("],
   [.text "        ", shared n "OpError", .text "Kind::", .text variant,
    .text "(builder.build()),"],
   [.text "        generic,"],
   [.text "    )"],
   [.text "))"]]

def returnPlainError (variant : String) : List (List Part) :=
  [[.text "return Ok(", shared n "UnmarshalledMessage", .text "::Error("],
   [.text "    ", shared n "OpError", .text "::", .text variant, .text "("],
   [.text "        builder.build()"],
   [.text "    )"],
   [.text "))"]]

def failException : List (List Part) :=
  [[.text "return Err(", shared n "Error", .text "::unmarshalling("],
   [.text
     "    format!(\"unrecognized exception: {}\", response_headers.smithy_type.as_str()),"],
   [.text "));"]]

/-- The last arm of the choice by the name of a header. -/
def otherHeader : List Entry :=
  ⟨.fresh, 0, "// Event stream protocol headers start with ':'"⟩ ::
    braces "name => if !name.starts_with(':')"
      (item [[shared n "tracing",
        .text "::trace!(\"Unrecognized event stream message header: {}\", name);"]])

def readHeaders : List Entry :=
  item [[.text "let response_headers = ", shared n "expect_fns",
    .text "::parse_response_headers(message)?;"]]

end Printing

mutual

@[simp] def Stmt.print (n : Names) : Stmt → List Entry
  | .skip => []
  | .seq first second => first.print n ++ second.print n
  | .letBuilder isMutable type => Printing.item [Printing.letBuilder isMutable type]
  | .letParsed value => Entry.block .plain "let parsed =" ";" (Printing.item (Printing.expr n value))
  | .letGeneric parser => Printing.item (Printing.letGeneric n parser)
  | .checkContentType expected => Printing.item (Printing.contentTypeGuard n expected)
  | .set field isOptional value => Printing.set n field isOptional value
  | .fillBuilder parser subject => Printing.item (Printing.fillBuilder n parser subject)
  | .fillAndReturn parser subject variant =>
    Printing.item (Printing.fillBuilder n parser subject ++ Printing.returnError n variant)
  | .forHeaders arms =>
    Printing.braces "for header in message.headers()"
      (Printing.braces "match header.name().as_str()" (printArms n arms ++ Printing.otherHeader n))
  | .choose subject arms binder last =>
    Printing.braces ("match " ++ subject.text)
      (printArms n arms ++ Printing.braces (binder ++ " =>") (last.print n))
  | .chooseType arms =>
    Printing.braces ("match " ++ Subject.eventType.text)
      (printArms n arms ++ [⟨.marked, 0, "_ => {}"⟩])
  | .ifType label body =>
    Printing.braces ("if " ++ Subject.eventType.text ++ " == " ++ Text.quote label) (body.print n)
  | .event variant held => Printing.item [Printing.eventResult n variant held]
  | .unknownEvent =>
    Printing.item [[.text "Ok(", Printing.shared n "UnmarshalledMessage", .text "::Event(",
      Printing.shared n "Output", .text "::", .text unknownVariant, .text "))"]]
  | .returnPlainError variant => Printing.item (Printing.returnPlainError n variant)
  | .genericError =>
    Printing.item [[.text "Ok(", Printing.shared n "UnmarshalledMessage", .text "::Error(",
      Printing.shared n "OpError", .text "::generic(generic)))"]]
  | .fail message binder => Printing.item [Printing.fail n message binder]
  | .failException => Printing.item (Printing.failException n)

@[simp] def Stmt.printArms (n : Names) : List (String × Stmt) → List Entry
  | [] => []
  | (label, body) :: arms =>
    Printing.braces (Text.quote label ++ " =>") (body.print n) ++ printArms n arms

end

end CrateGen.EventStream
