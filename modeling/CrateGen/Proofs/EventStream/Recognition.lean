import CrateGen.Proofs.EventStream.Unmarshaller

namespace CrateGen.EventStream

open Outcome

variable {Doc : Type} {plan : Plan} {decoder : Decoder Doc} {routing : Routing} {frame : Frame}

/-! ## Errors in the content of an event -/

/-- Errors in the content of a message, as opposed to a type that is not known. -/
def DecodeError.InContent : DecodeError → Prop
  | .contentTypeMismatch _ _ | .invalidUtf8 | .payload _ _ | .headerType _ _ _ => True
  | _ => False

/-- The computation fails only over the content of the message. -/
inductive FailsInContent {α : Type} : Except DecodeError α → Prop where
  | ok (a : α) : FailsInContent (.ok a)
  | error {e : DecodeError} (h : e.InContent) : FailsInContent (.error e)

theorem FailsInContent.inContent {α : Type} {x : Except DecodeError α} (hx : FailsInContent x)
    {e : DecodeError} (h : x = .error e) : e.InContent := by
  cases hx with
  | ok a => cases h
  | error he =>
    cases h
    exact he

theorem FailsInContent.bind {α β : Type} {x : Except DecodeError α} {f : α → Except DecodeError β}
    (hx : FailsInContent x) (hf : ∀ a, FailsInContent (f a)) : FailsInContent (x >>= f) := by
  cases hx with
  | ok a => exact hf a
  | error h => exact .error h

theorem FailsInContent.map {α β : Type} {x : Except DecodeError α} (hx : FailsInContent x)
    (f : α → β) : FailsInContent (x.map f) := by
  cases hx with
  | ok a => exact .ok (f a)
  | error h => exact .error h

theorem Header.read_failsInContent (type : HeaderType) (h : Header) :
    FailsInContent (h.read type : Except DecodeError (Value Doc)) := by
  unfold Header.read
  split
  · exact .ok _
  · exact .error trivial

theorem PayloadKind.checkContentType_failsInContent (kind : PayloadKind) (routing : Routing) :
    FailsInContent (kind.checkContentType routing) := by
  unfold PayloadKind.checkContentType
  split
  · exact .ok _
  · dsimp only
    split
    · exact .ok _
    · exact .error trivial

namespace Plan

theorem readPayload_failsInContent (binding : PayloadBinding) :
    FailsInContent (readPayload decoder routing frame binding) := by
  refine (binding.kind.checkContentType_failsInContent routing).bind fun _ => ?_
  cases binding.kind with
  | blob => exact .ok _
  | text =>
    dsimp only
    split
    · exact .ok _
    · exact .error trivial
  | structured parser =>
    dsimp only
    cases decoder.payload parser frame.payload with
    | ok v => exact .ok v
    | error source => exact .error trivial

theorem readHeaders_failsInContent (bindings : List HeaderBinding) (headers : List Header)
    (fields : Fields Doc) : FailsInContent (readHeaders bindings fields headers) := by
  induction headers generalizing fields with
  | nil => exact .ok fields
  | cons h rest ih =>
    rw [readHeaders]
    split
    · exact (h.read_failsInContent _).bind fun _ => ih _
    · exact ih fields

theorem readBody_failsInContent (branch : EventBranch) :
    FailsInContent (readBody decoder routing frame branch) := by
  unfold readBody
  cases branch.body with
  | empty type => exact .ok _
  | payloadOnly parser =>
    dsimp only
    split
    · exact .ok _
    · exact .error trivial
  | bound builder payload headers =>
    have hheaders (fields : Fields Doc) : FailsInContent (do
        return Content.fields (← readHeaders headers fields frame.headers)) :=
      (readHeaders_failsInContent headers frame.headers fields).bind fun _ => .ok _
    cases payload with
    | none => exact hheaders ∅
    | some binding => exact (readPayload_failsInContent binding).bind fun _ => hheaders _

/-! ## Decoding by the kind of message -/

def eventFor? (plan : Plan) (type : String) : Option EventBranch :=
  plan.events.find? (·.eventType == type)

def errorFor? (plan : Plan) (type : String) : Option ErrorBranch :=
  plan.errors.find? (·.eventType == type)

theorem unmarshal_event (hrouting : Routing.ofFrame frame = .ok routing)
    (h : routing.messageType = "event") : plan.unmarshal decoder frame =
      (plan.unmarshalEvent decoder routing frame).map .event := by
  rw [unmarshal, hrouting]
  dsimp only [bind, Except.bind]
  rw [h]
  rfl

theorem unmarshal_exception (hrouting : Routing.ofFrame frame = .ok routing)
    (h : routing.messageType = "exception") : plan.unmarshal decoder frame =
      (plan.unmarshalError decoder routing frame).map .error := by
  rw [unmarshal, hrouting]
  dsimp only [bind, Except.bind]
  rw [h]
  rfl

theorem unmarshal_other (hrouting : Routing.ofFrame frame = .ok routing)
    (hevent : routing.messageType ≠ "event") (hexception : routing.messageType ≠ "exception") :
    plan.unmarshal decoder frame =
      .error (.unrecognizedMessageType routing.messageType) := by
  rw [unmarshal, hrouting]
  dsimp only [bind, Except.bind]
  rw [beq_eq_false_iff_ne.mpr hevent, beq_eq_false_iff_ne.mpr hexception]
  rfl

theorem unmarshalEvent_some {branch : EventBranch}
    (h : plan.eventFor? routing.type = some branch) :
    plan.unmarshalEvent decoder routing frame =
      (readBody decoder routing frame branch).map (.variant branch.variant) := by
  rw [eventFor?] at h
  rw [unmarshalEvent, h]

theorem unmarshalEvent_none (h : plan.eventFor? routing.type = none) :
    plan.unmarshalEvent decoder routing frame =
      if plan.target.rendersUnknownVariant then .ok .unknown
      else .error (.unrecognizedEventType routing.type) := by
  rw [eventFor?] at h
  rw [unmarshalEvent, h]

variable {branch : ErrorBranch} {generic : Option GenericError}

/-- Whether a generic error is asked for or not, a branch with a parser decides. -/
theorem unmarshalException_modeled {parser : RuntimeType Code}
    (h : plan.errorFor? routing.type = some branch) (hparser : branch.parser = some parser) :
    plan.unmarshalException decoder routing frame generic =
      match decoder.error parser frame.payload with
      | .ok fields => .ok (.modeled branch.variant fields generic)
      | .error source => .error (.payload branch.eventType source) := by
  rw [errorFor?] at h
  unfold unmarshalException
  rw [h]
  dsimp only
  generalize branch.parser = found at hparser
  subst hparser
  cases plan.target <;> rfl

theorem unmarshalException_none (h : plan.errorFor? routing.type = none) :
    plan.unmarshalException decoder routing frame generic =
      match generic with
      | some e => .ok (.generic e)
      | none => .error (.unrecognizedException routing.type) := by
  unfold errorFor? at h
  unfold unmarshalException
  generalize plan.errors.find? _ = found at h
  subst h
  rfl

/-! ## What a target makes of a frame -/

/-- A client accepts events and exceptions that its plan does not know. The parser is the one for
generic errors. -/
structure Tolerant (plan : Plan) (parser : RuntimeType Code) (decoder : Decoder Doc)
    (routing : Routing) (frame : Frame) : Prop where
  unknown : routing.messageType = "event" → plan.eventFor? routing.type = none →
    plan.unmarshal decoder frame = .ok (.event .unknown)
  unhandled : routing.messageType = "exception" →
    ∀ reason, decoder.genericError parser frame.payload = .error reason →
      plan.unmarshal decoder frame = .ok (.error (.unhandled reason))
  modeled : routing.messageType = "exception" →
    ∀ generic, decoder.genericError parser frame.payload = .ok generic →
    ∀ branch, plan.errorFor? routing.type = some branch →
    ∀ p, branch.parser = some p →
    ∀ fields, decoder.error p frame.payload = .ok fields →
      plan.unmarshal decoder frame =
        .ok (.error (.modeled branch.variant fields (some generic)))
  payload : routing.messageType = "exception" →
    ∀ generic, decoder.genericError parser frame.payload = .ok generic →
    ∀ branch, plan.errorFor? routing.type = some branch →
    ∀ p, branch.parser = some p →
    ∀ source, decoder.error p frame.payload = .error source →
      plan.unmarshal decoder frame = .error (.payload branch.eventType source)
  generic : routing.messageType = "exception" →
    ∀ generic, decoder.genericError parser frame.payload = .ok generic →
    (∀ branch, plan.errorFor? routing.type = some branch → branch.parser = none) →
      plan.unmarshal decoder frame = .ok (.error (.generic generic))
  /-- No event and no exception is unrecognized. -/
  recognized : ∀ type, plan.unmarshal decoder frame ≠ .error (.unrecognizedEventType type) ∧
    plan.unmarshal decoder frame ≠ .error (.unrecognizedException type)

/-- A server fails on events and exceptions that its plan does not know. -/
structure Strict (plan : Plan) (decoder : Decoder Doc) (routing : Routing) (frame : Frame) :
    Prop where
  event : routing.messageType = "event" → plan.eventFor? routing.type = none →
    plan.unmarshal decoder frame = .error (.unrecognizedEventType routing.type)
  exception : routing.messageType = "exception" → plan.errorFor? routing.type = none →
    plan.unmarshal decoder frame = .error (.unrecognizedException routing.type)
  modeled : routing.messageType = "exception" →
    ∀ branch, plan.errorFor? routing.type = some branch →
    ∀ p, branch.parser = some p →
    ∀ fields, decoder.error p frame.payload = .ok fields →
      plan.unmarshal decoder frame = .ok (.error (.modeled branch.variant fields none))
  payload : routing.messageType = "exception" →
    ∀ branch, plan.errorFor? routing.type = some branch →
    ∀ p, branch.parser = some p →
    ∀ source, decoder.error p frame.payload = .error source →
      plan.unmarshal decoder frame = .error (.payload branch.eventType source)
  /-- Without a parser, the error has no fields. -/
  bare : routing.messageType = "exception" →
    ∀ branch, plan.errorFor? routing.type = some branch → branch.parser = none →
      plan.unmarshal decoder frame = .ok (.error (.modeled branch.variant ∅ none))
  /-- What is decoded is modeled. -/
  certain : plan.unmarshal decoder frame ≠ .ok (.event .unknown) ∧
    (∀ generic, plan.unmarshal decoder frame ≠ .ok (.error (.generic generic))) ∧
    ∀ reason, plan.unmarshal decoder frame ≠ .ok (.error (.unhandled reason))

/-- A branch without a parser is one of the server only. -/
theorem unmarshalException_client (htarget : plan.target = .client)
    (h : ∀ branch, plan.errorFor? routing.type = some branch → branch.parser = none)
    (e : GenericError) :
    plan.unmarshalException decoder routing frame (some e) = .ok (.generic e) := by
  cases hb : plan.errorFor? routing.type with
  | none => exact unmarshalException_none hb
  | some branch =>
    have hparser := h branch hb
    rw [errorFor?] at hb
    rw [unmarshalException, hb]
    dsimp only
    rw [hparser, htarget]

theorem unmarshalException_server (htarget : plan.target = .server)
    (h : plan.errorFor? routing.type = some branch) (hparser : branch.parser = none) :
    plan.unmarshalException decoder routing frame none = .ok (.modeled branch.variant ∅ none) := by
  rw [errorFor?] at h
  rw [unmarshalException, h]
  dsimp only
  rw [hparser, htarget]

theorem unmarshalError_some {parser : RuntimeType Code} {e : GenericError}
    (hplan : plan.genericErrorParser = some parser)
    (h : decoder.genericError parser frame.payload = .ok e) :
    plan.unmarshalError decoder routing frame =
      plan.unmarshalException decoder routing frame (some e) := by
  rw [unmarshalError, hplan]
  dsimp only
  rw [h]

theorem unmarshalError_unhandled {parser : RuntimeType Code} {reason : String}
    (hplan : plan.genericErrorParser = some parser)
    (h : decoder.genericError parser frame.payload = .error reason) :
    plan.unmarshalError decoder routing frame = .ok (.unhandled reason) := by
  rw [unmarshalError, hplan]
  dsimp only
  rw [h]

theorem unmarshalError_none (hplan : plan.genericErrorParser = none) :
    plan.unmarshalError decoder routing frame =
      plan.unmarshalException decoder routing frame none := by
  rw [unmarshalError, hplan]

theorem unmarshalEvent_client (htarget : plan.target = .client) :
    FailsInContent (plan.unmarshalEvent decoder routing frame) := by
  cases h : plan.eventFor? routing.type with
  | some branch =>
    rw [unmarshalEvent_some h]
    exact (readBody_failsInContent branch).map _
  | none =>
    rw [unmarshalEvent_none h, htarget]
    exact .ok _

/-- The exceptions of a client fail over a payload that is not as modeled, and in no other way. -/
theorem unmarshalError_client (htarget : plan.target = .client) {parser : RuntimeType Code}
    (hplan : plan.genericErrorParser = some parser) :
    FailsInContent (plan.unmarshalError decoder routing frame) := by
  cases hgeneric : decoder.genericError parser frame.payload with
  | error reason =>
    rw [unmarshalError_unhandled hplan hgeneric]
    exact .ok _
  | ok e =>
    rw [unmarshalError_some hplan hgeneric]
    by_cases h : ∀ branch, plan.errorFor? routing.type = some branch → branch.parser = none
    · rw [unmarshalException_client htarget h]
      exact .ok _
    · push Not at h
      obtain ⟨branch, hb, hne⟩ := h
      obtain ⟨p, hparser⟩ := Option.ne_none_iff_exists'.mp hne
      rw [unmarshalException_modeled hb hparser]
      cases decoder.error p frame.payload with
      | ok fields => exact .ok _
      | error source => exact .error trivial

theorem tolerant_of_client (hrouting : Routing.ofFrame frame = .ok routing)
    (htarget : plan.target = .client) {parser : RuntimeType Code}
    (hplan : plan.genericErrorParser = some parser) :
    plan.Tolerant parser decoder routing frame where
  unknown hevent hnone := by
    rw [unmarshal_event hrouting hevent, unmarshalEvent_none hnone, htarget]
    rfl
  unhandled hexception reason hgeneric := by
    rw [unmarshal_exception hrouting hexception, unmarshalError_unhandled hplan hgeneric]
    rfl
  modeled hexception generic hgeneric branch hb p hparser fields hfields := by
    rw [unmarshal_exception hrouting hexception, unmarshalError_some hplan hgeneric,
      unmarshalException_modeled hb hparser, hfields]
    rfl
  payload hexception generic hgeneric branch hb p hparser source hsource := by
    rw [unmarshal_exception hrouting hexception, unmarshalError_some hplan hgeneric,
      unmarshalException_modeled hb hparser, hsource]
    rfl
  generic hexception generic hgeneric hb := by
    rw [unmarshal_exception hrouting hexception, unmarshalError_some hplan hgeneric,
      unmarshalException_client htarget hb]
    rfl
  recognized type := by
    by_cases hevent : routing.messageType = "event"
    · have hfails : FailsInContent (plan.unmarshal decoder frame) := by
        rw [unmarshal_event hrouting hevent]
        exact (unmarshalEvent_client htarget).map _
      exact ⟨hfails.inContent, hfails.inContent⟩
    by_cases hexception : routing.messageType = "exception"
    · have hfails : FailsInContent (plan.unmarshal decoder frame) := by
        rw [unmarshal_exception hrouting hexception]
        exact (unmarshalError_client htarget hplan).map _
      exact ⟨hfails.inContent, hfails.inContent⟩
    · rw [unmarshal_other hrouting hevent hexception]
      exact ⟨nofun, nofun⟩

theorem unmarshalError_server (htarget : plan.target = .server)
    (hplan : plan.genericErrorParser = none) {e : DecodedError Doc}
    (h : plan.unmarshalError decoder routing frame = .ok e) :
    ∃ name fields, e = .modeled name fields none := by
  rw [unmarshalError_none hplan] at h
  cases hb : plan.errorFor? routing.type with
  | none =>
    rw [unmarshalException_none hb] at h
    cases h
  | some branch =>
    cases hparser : branch.parser with
    | none =>
      rw [unmarshalException_server htarget hb hparser] at h
      exact ⟨_, _, (Except.ok.inj h).symm⟩
    | some p =>
      rw [unmarshalException_modeled hb hparser] at h
      cases hfields : decoder.error p frame.payload with
      | error source =>
        rw [hfields] at h
        cases h
      | ok fields =>
        rw [hfields] at h
        exact ⟨_, _, (Except.ok.inj h).symm⟩

theorem unmarshalEvent_server (htarget : plan.target = .server) {e : DecodedEvent Doc}
    (h : plan.unmarshalEvent decoder routing frame = .ok e) :
    ∃ name content, e = .variant name content := by
  cases hb : plan.eventFor? routing.type with
  | none =>
    rw [unmarshalEvent_none hb, htarget] at h
    cases h
  | some branch =>
    rw [unmarshalEvent_some hb] at h
    cases hbody : readBody decoder routing frame branch with
    | error e =>
      rw [hbody] at h
      cases h
    | ok content =>
      rw [hbody] at h
      exact ⟨_, _, (Except.ok.inj h).symm⟩

theorem strict_of_server (hrouting : Routing.ofFrame frame = .ok routing)
    (htarget : plan.target = .server) (hplan : plan.genericErrorParser = none) :
    plan.Strict decoder routing frame where
  event hevent hnone := by
    rw [unmarshal_event hrouting hevent, unmarshalEvent_none hnone, htarget]
    rfl
  exception hexception hnone := by
    rw [unmarshal_exception hrouting hexception, unmarshalError_none hplan,
      unmarshalException_none hnone]
    rfl
  modeled hexception branch hb p hparser fields hfields := by
    rw [unmarshal_exception hrouting hexception, unmarshalError_none hplan,
      unmarshalException_modeled hb hparser, hfields]
    rfl
  payload hexception branch hb p hparser source hsource := by
    rw [unmarshal_exception hrouting hexception, unmarshalError_none hplan,
      unmarshalException_modeled hb hparser, hsource]
    rfl
  bare hexception branch hb hparser := by
    rw [unmarshal_exception hrouting hexception, unmarshalError_none hplan,
      unmarshalException_server htarget hb hparser]
    rfl
  certain := by
    by_cases hevent : routing.messageType = "event"
    · rw [unmarshal_event hrouting hevent]
      cases h : plan.unmarshalEvent decoder routing frame with
      | error e => exact ⟨nofun, fun _ => nofun, fun _ => nofun⟩
      | ok e =>
        obtain ⟨name, content, rfl⟩ := unmarshalEvent_server htarget h
        exact ⟨nofun, fun _ => nofun, fun _ => nofun⟩
    by_cases hexception : routing.messageType = "exception"
    · rw [unmarshal_exception hrouting hexception]
      cases h : plan.unmarshalError decoder routing frame with
      | error e => exact ⟨nofun, fun _ => nofun, fun _ => nofun⟩
      | ok e =>
        obtain ⟨name, fields, rfl⟩ := unmarshalError_server htarget hplan h
        exact ⟨nofun, fun _ => nofun, fun _ => nofun⟩
    · rw [unmarshal_other hrouting hevent hexception]
      exact ⟨nofun, fun _ => nofun, fun _ => nofun⟩

variable {ctx : Context} {protocol : Protocol} {operation union : Shape}

/-- A plan asks for the generic error of its protocol on clients, and for none on servers. -/
theorem genericErrorParser_of_build (h : Plan.build ctx protocol operation union = .ok plan) :
    plan.target = ctx.target ∧ plan.genericErrorParser =
      match ctx.target with
      | .client => some (protocol.genericErrorParser operation)
      | .server => none := by
  have hsources := sources_of_build h
  exact ⟨hsources.target, hsources.generic⟩

/-- Decoding is tolerant on clients and strict on servers, and messages that are neither events nor
exceptions are errors on both. -/
theorem unmarshal_by_target (h : Plan.build ctx protocol operation union = .ok plan)
    (decoder : Decoder Doc) (hrouting : Routing.ofFrame frame = .ok routing) :
    (ctx.target = .client →
      plan.Tolerant (protocol.genericErrorParser operation) decoder routing frame) ∧
    (ctx.target = .server → plan.Strict decoder routing frame) ∧
    (routing.messageType ≠ "event" → routing.messageType ≠ "exception" →
      plan.unmarshal decoder frame =
        .error (.unrecognizedMessageType routing.messageType)) := by
  obtain ⟨htarget, hplan⟩ := genericErrorParser_of_build h
  refine ⟨fun hclient => ?_, fun hserver => ?_, unmarshal_other hrouting⟩
  · rw [hclient] at htarget hplan
    exact tolerant_of_client hrouting htarget hplan
  · rw [hserver] at htarget hplan
    exact strict_of_server hrouting htarget hplan

theorem unmarshal_by_target_readings : ∃ plan frame routing,
    Plan.build readingsContext (Protocol.json "aws.protocols#restJson1" readingsContext)
      readingsUnion readingsUnion = .ok plan ∧
    Routing.ofFrame frame = .ok routing ∧ routing.messageType = "exception" ∧
    readingsContext.target = .client ∧
    plan.Tolerant ((Protocol.json "aws.protocols#restJson1" readingsContext).genericErrorParser
      readingsUnion) jsonDecoder routing frame := by
  obtain ⟨plan, h, -⟩ := exists_readingsPlan
  let frame : Frame :=
    { headers := [⟨":message-type", .string "exception"⟩, ⟨":exception-type", .string "fault"⟩] }
  have hrouting : Routing.ofFrame frame = .ok ⟨"exception", "fault", none⟩ := rfl
  exact ⟨plan, frame, _, h, hrouting, rfl, rfl,
    (unmarshal_by_target h jsonDecoder hrouting).1 rfl⟩

end Plan

end CrateGen.EventStream
