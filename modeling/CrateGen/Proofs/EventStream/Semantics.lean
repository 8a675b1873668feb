import CrateGen.Proofs.EventStream.Program

namespace CrateGen.EventStream

/-- What generated code calls: the runtime on a message and on a header, the parsers of the
protocol, and the builders, of which a setter fills the member `slot`. -/
structure Host (Doc : Type) where
  routing (frame : Frame) : Except String Routing
  header (reader : String) (h : Header) : Except String (Value Doc)
  decoder : Decoder Doc
  slot (builder : Symbol Code) (setter : String) : String

structure Call (Doc : Type) where
  host : Host Doc
  frame : Frame
  routing : Routing

structure Locals (Doc : Type) where
  builder : Option (Symbol Code × Fields Doc) := none
  parsed : Option (Value Doc) := none
  generic : Option GenericError := none
  header : Option Header := none
  /-- A variable bound by the last arm of a choice, and its value. -/
  bound : Option (String × String) := none

/-- Where a statement leads: on to the next, out of the function, or nowhere, when it uses a
variable that is not in scope. -/
inductive Flow (Doc : Type) where
  | next (l : Locals Doc)
  | done (result : Except String (Decoded Doc))
  | stuck

variable {Doc : Type}

def Flow.andThen (flow : Flow Doc) (f : Locals Doc → Flow Doc) : Flow Doc :=
  match flow with
  | .next l => f l
  | .done result => .done result
  | .stuck => .stuck

def Flow.forEach {α : Type} (body : α → Locals Doc → Flow Doc) : List α → Locals Doc → Flow Doc
  | [], l => .next l
  | a :: rest, l => (body a l).andThen (forEach body rest)

def Flow.ofResult (result : Except String α) (f : α → Flow Doc) : Flow Doc :=
  match result with
  | .ok a => f a
  | .error message => .done (.error message)

/-- Goes on with the value of a variable that must be in scope. -/
def Flow.ofVariable (x : Option α) (f : α → Flow Doc) : Flow Doc :=
  match x with
  | some a => f a
  | none => .stuck

namespace Call

variable (call : Call Doc)

def subject : Subject → String
  | .messageType => call.routing.messageType
  | .eventType => call.routing.type

/-- The value that a parser gives for the payload, or its message about `subject`. -/
def parse {α : Type} (parsed : Except String α) (subject : String) : Except String α :=
  parsed.mapError fun e => "failed to unmarshall " ++ subject ++ ": " ++ e

/-- The value of an expression; nothing when it reads a header and none is at hand. -/
def expr (l : Locals Doc) : Expr → Option (Except String (Value Doc))
  | .blob => some (.ok (.blob call.frame.payload))
  | .text =>
    some <| match Bytes.text? call.frame.payload with
      | some s => .ok (.string s)
      | none => .error "message payload is not valid UTF-8"
  | .parse parser subject =>
    some (parse (call.host.decoder.payload parser call.frame.payload) subject)
  | .header reader => l.header.map (call.host.header reader)

end Call

def Locals.held (l : Locals Doc) : Held → Option (Content Doc)
  | .built _ => some (.fields ∅)
  | .parsed => l.parsed.map .value
  | .builder => l.builder.map fun b => .fields b.2

mutual

/-- What a statement does in a call. -/
@[simp] def Stmt.eval (call : Call Doc) : Stmt → Locals Doc → Flow Doc
  | .skip, l => .next l
  | .seq first second, l => (first.eval call l).andThen (second.eval call)
  | .letBuilder _ type, l => .next { l with builder := some (type, ∅) }
  | .letParsed value, l =>
    .ofVariable (call.expr l value) fun result =>
      .ofResult result fun v => .next { l with parsed := some v }
  | .letGeneric parser, l =>
    match call.host.decoder.genericError parser call.frame.payload with
    | .ok generic => .next { l with generic := some generic }
    | .error reason => .done (.ok (.error (.unhandled reason)))
  | .checkContentType expected, l =>
    let actual := call.routing.contentType.getD ""
    if actual == expected then .next l
    else .done (.error
      ("expected :content-type to be '" ++ expected ++ "', but was '" ++ actual ++ "'"))
  | .set field _ value, l =>
    .ofVariable (call.expr l value) fun result =>
      .ofResult result fun v =>
        .ofVariable l.builder fun (type, fields) =>
          let slot := call.host.slot type (Name.setter field)
          .next { l with builder := some (type, fields.insert slot v) }
  | .fillBuilder parser subject, l =>
    .ofVariable l.builder fun (type, _) =>
      .ofResult (Call.parse (call.host.decoder.error parser call.frame.payload) subject)
        fun fields => .next { l with builder := some (type, fields) }
  | .fillAndReturn parser subject variant, l =>
    .ofVariable l.builder fun _ =>
      .ofResult (Call.parse (call.host.decoder.error parser call.frame.payload) subject)
        fun fields => .ofVariable l.generic fun generic =>
          .done (.ok (.error (.modeled variant fields (some generic))))
  | .forHeaders arms, l =>
    Flow.forEach (fun h l =>
      match Stmt.evalArms call arms h.name { l with header := some h } with
      | some flow => flow.andThen fun l => .next { l with header := none }
      | none => .next l) call.frame.headers l
  | .choose subject arms binder last, l =>
    match Stmt.evalArms call arms (call.subject subject) l with
    | some flow => flow
    | none => last.eval call { l with bound := some (binder, call.subject subject) }
  | .chooseType arms, l => (Stmt.evalArms call arms call.routing.type l).getD (.next l)
  | .ifType label body, l =>
    if call.routing.type == label then body.eval call l else .next l
  | .event variant h, l =>
    .ofVariable (l.held h) fun content => .done (.ok (.event (.variant variant content)))
  | .unknownEvent, _ => .done (.ok (.event .unknown))
  | .returnPlainError variant, l =>
    .ofVariable l.builder fun (_, fields) => .done (.ok (.error (.modeled variant fields none)))
  | .genericError, l =>
    .ofVariable l.generic fun generic => .done (.ok (.error (.generic generic)))
  | .fail message binder, l =>
    .ofVariable l.bound fun (name, value) =>
      if name == binder then .done (.error (message ++ ": " ++ value)) else .stuck
  | .failException, _ => .done (.error ("unrecognized exception: " ++ call.routing.type))

/-- What the first arm with the label does; nothing if there is none. -/
@[simp] def Stmt.evalArms (call : Call Doc) : List (String × Stmt) → String → Locals Doc →
    Option (Flow Doc)
  | [], _, _ => none
  | (label, body) :: arms, chosen, l =>
    if label == chosen then some (body.eval call l) else Stmt.evalArms call arms chosen l

end

/-- What a function with the body gives for a message; nothing if it gets stuck or does not
return. -/
def Stmt.run (host : Host Doc) (body : Stmt) (frame : Frame) :
    Option (Except String (Decoded Doc)) :=
  match host.routing frame with
  | .error message => some (.error message)
  | .ok routing =>
    match body.eval ⟨host, frame, routing⟩ {} with
    | .done result => some result
    | _ => none

/-! ## The program of a plan -/

def PayloadKind.expr (field : String) : PayloadKind → Expr
  | .blob => .blob
  | .text => .text
  | .structured parser => .parse parser field

def PayloadKind.guardStmt (kind : PayloadKind) : Stmt :=
  match kind.contentType? with
  | some expected => .checkContentType expected
  | none => .skip

/-- A check of the content type where one is demanded, and the call of the setter. -/
def PayloadBinding.stmt (binding : PayloadBinding) : Stmt :=
  binding.kind.guardStmt ++
    Stmt.set binding.field binding.isOptional (binding.kind.expr binding.field)

def HeaderBinding.arm (binding : HeaderBinding) : String × Stmt :=
  (binding.member, .set binding.field binding.isOptional (.header binding.type.reader))

namespace EventBody

def payloadStmt : Option PayloadBinding → Stmt
  | some binding => binding.stmt
  | none => .skip

def headersStmt (headers : List HeaderBinding) : Stmt :=
  if headers.isEmpty then .skip else .forHeaders (headers.map HeaderBinding.arm)

def stmt (variant : String) : EventBody → Stmt
  | .empty type => .event variant (.built type)
  | .payloadOnly parser => .letParsed (.parse parser variant) ++ Stmt.event variant .parsed
  | .bound builder payload headers =>
    .letBuilder true builder ++ payloadStmt payload ++ headersStmt headers ++
      Stmt.event variant .builder

end EventBody

def EventBranch.arm (branch : EventBranch) : String × Stmt :=
  (branch.eventType, branch.body.stmt branch.variant)

def ErrorBranch.stmt (target : Target) (branch : ErrorBranch) : Stmt :=
  match target, branch.parser with
  | .client, none => .skip
  | .client, some parser =>
    .letBuilder true branch.builder ++ Stmt.fillAndReturn parser branch.eventType branch.variant
  | .server, some parser =>
    .letBuilder true branch.builder ++ Stmt.fillBuilder parser branch.eventType ++
      Stmt.returnPlainError branch.variant
  | .server, none =>
    .letBuilder false branch.builder ++ Stmt.returnPlainError branch.variant

def ErrorBranch.arm (target : Target) (branch : ErrorBranch) : String × Stmt :=
  (branch.eventType, branch.stmt target)

namespace Plan

variable (plan : Plan)

def catchAll : Stmt :=
  if plan.target.rendersUnknownVariant then .unknownEvent
  else .fail "unrecognized :event-type" "_unknown_variant"

/-- One arm for each event in order, and the last arm for all others. -/
def eventStmt : Stmt :=
  .choose .eventType (plan.events.map EventBranch.arm) "_unknown_variant" plan.catchAll

/-- A branch for each modeled error in order; a single one is tested by a condition. -/
def errorChoice : Stmt :=
  match plan.errors with
  | [] => .skip
  | [branch] => .ifType branch.eventType (branch.stmt plan.target)
  | branches => .chooseType (branches.map (ErrorBranch.arm plan.target))

def genericStmt : Stmt :=
  match plan.genericErrorParser with
  | some parser => .letGeneric parser
  | none => .skip

/-- What is done for an exception that no branch has returned. -/
def lastStmt : Stmt :=
  match plan.target with
  | .client => .genericError
  | .server => .failException

/-- The generic error first, if there is a parser for it, then the modeled ones. -/
def errorStmt : Stmt :=
  plan.genericStmt ++ plan.errorChoice ++ plan.lastStmt

/-- The choice among events, exceptions and messages that are neither. -/
def program : Stmt :=
  .choose .messageType [("event", plan.eventStmt), ("exception", plan.errorStmt)] "value"
    (.fail "unrecognized :message-type" "value")

end Plan

end CrateGen.EventStream
