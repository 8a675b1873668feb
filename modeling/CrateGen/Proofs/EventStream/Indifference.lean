import CrateGen.Proofs.EventStream.Assembly

/-!
What decoding does not look at: headers that nothing binds, headers of a routing name behind the
first one, and the order of headers with different names. The order can only decide which of several
errors is reported.
-/

namespace CrateGen.EventStream

open Outcome

variable {Doc : Type} {ctx : Context} {protocol : Protocol} {operation union : Shape} {plan : Plan}
  {decoder : Decoder Doc} {frame frame' : Frame} {headers headers' before after : List Header}
  {bindings : List HeaderBinding} {name : String} {h : Header}

/-! ## Two runs -/

/-- Two runs give the same result, or errors that are related. -/
inductive Alike {α : Type} (E : DecodeError → DecodeError → Prop) :
    Except DecodeError α → Except DecodeError α → Prop where
  | ok (a : α) : Alike E (.ok a) (.ok a)
  | error {e e' : DecodeError} (h : E e e') : Alike E (.error e) (.error e')

namespace Alike

variable {α β : Type} {E : DecodeError → DecodeError → Prop} {x y : Except DecodeError α}

theorem refl (hE : ∀ e, E e e) (x : Except DecodeError α) : Alike E x x := by
  cases x with
  | ok a => exact .ok a
  | error e => exact .error (hE e)

theorem bind {f g : α → Except DecodeError β} (h : Alike E x y) (hf : ∀ a, Alike E (f a) (g a)) :
    Alike E (x >>= f) (y >>= g) := by
  cases h with
  | ok a => exact hf a
  | error h => exact .error h

theorem map (h : Alike E x y) (f : α → β) : Alike E (x.map f) (y.map f) := by
  cases h with
  | ok a => exact .ok (f a)
  | error h => exact .error h

theorem eq (h : Alike Eq x y) : x = y := by
  cases h with
  | ok a => rfl
  | error h => rw [h]

theorem eq_ok (h : Alike E x y) {a : α} (hx : x = .ok a) : y = .ok a := by
  cases h with
  | ok a => exact hx
  | error h => cases hx

theorem exists_error (h : Alike E x y) (hx : ∃ e, x = .error e) : ∃ e, y = .error e := by
  obtain ⟨e, rfl⟩ := hx
  cases h with
  | error h => exact ⟨_, rfl⟩

end Alike

/-! ## Where the headers are looked at -/

/-- The headers that say how a frame is decoded. -/
def routingNames : List String :=
  [":message-type", ":event-type", ":exception-type", ":content-type"]

theorem Routing.ofFrame_congr
    (h : ∀ name ∈ routingNames, frame.header? name = frame'.header? name) :
    ofFrame frame = ofFrame frame' := by
  have hstring (name : String) (hname : name ∈ routingNames) :
      frame.stringHeader name = frame'.stringHeader name := by
    unfold Frame.stringHeader
    rw [h name hname]
  have hmessage := hstring ":message-type" (by decide)
  have hevent := hstring ":event-type" (by decide)
  have hexception := hstring ":exception-type" (by decide)
  have hcontent := hstring ":content-type" (by decide)
  unfold ofFrame Frame.requireHeader
  rw [hmessage, hevent, hexception, hcontent]

namespace Plan

variable {E : DecodeError → DecodeError → Prop}

theorem readPayload_congr (hpayload : frame.payload = frame'.payload) (routing : Routing)
    (binding : PayloadBinding) :
    readPayload decoder routing frame binding = readPayload decoder routing frame' binding := by
  unfold readPayload
  rw [hpayload]

/-- The headers of an event are read, from any fields on, alike. -/
def ReadsAlike (Doc : Type) (E : DecodeError → DecodeError → Prop) (bindings : List HeaderBinding)
    (headers headers' : List Header) : Prop :=
  ∀ fields : Fields Doc, Alike E (readHeaders bindings fields headers)
    (readHeaders bindings fields headers')

theorem readBody_alike (hE : ∀ e, E e e) (hpayload : frame.payload = frame'.payload)
    (routing : Routing) {branch : EventBranch}
    (hheaders : ∀ builder payload? bindings, branch.body = .bound builder payload? bindings →
      ReadsAlike Doc E bindings frame.headers frame'.headers) :
    Alike E (readBody decoder routing frame branch) (readBody decoder routing frame' branch) := by
  unfold readBody
  cases hbody : branch.body with
  | empty type => exact .refl hE _
  | payloadOnly parser =>
    rw [hpayload]
    exact .refl hE _
  | bound builder payload? bindings =>
    have hread (start : Fields Doc) : Alike E
        (do return Content.fields (← readHeaders bindings start frame.headers))
        (do return Content.fields (← readHeaders bindings start frame'.headers)) :=
      (hheaders builder payload? bindings hbody start).bind fun _ => .ok _
    cases payload? with
    | none => exact hread ∅
    | some binding =>
      dsimp only
      rw [readPayload_congr hpayload]
      exact (Alike.refl hE _).bind fun v => hread _

/-- Apart from the payload, decoding looks at the first headers of the routing names and at the
headers that are read into fields. -/
theorem unmarshal_alike (hE : ∀ e, E e e) (hpayload : frame.payload = frame'.payload)
    (hrouting : ∀ name ∈ routingNames, frame.header? name = frame'.header? name)
    (hheaders : ∀ branch ∈ plan.events, ∀ builder payload? bindings,
      branch.body = .bound builder payload? bindings →
        ReadsAlike Doc E bindings frame.headers frame'.headers) :
    Alike E (plan.unmarshal decoder frame) (plan.unmarshal decoder frame') := by
  cases hroute : Routing.ofFrame frame with
  | error e =>
    have hroute' := hroute
    rw [Routing.ofFrame_congr hrouting] at hroute'
    rw [unmarshal, unmarshal, hroute, hroute']
    exact .error (hE e)
  | ok routing =>
    have hroute' := hroute
    rw [Routing.ofFrame_congr hrouting] at hroute'
    by_cases hevent : routing.messageType = "event"
    · rw [unmarshal_event hroute hevent, unmarshal_event hroute' hevent]
      apply Alike.map
      cases hb : plan.eventFor? routing.type with
      | none =>
        rw [unmarshalEvent_none hb, unmarshalEvent_none hb]
        exact .refl hE _
      | some branch =>
        rw [unmarshalEvent_some hb, unmarshalEvent_some hb]
        rw [eventFor?] at hb
        exact (readBody_alike hE hpayload routing
          (hheaders branch (List.mem_of_find?_eq_some hb))).map _
    by_cases hexception : routing.messageType = "exception"
    · rw [unmarshal_exception hroute hexception, unmarshal_exception hroute' hexception,
        unmarshalError, unmarshalError]
      simp only [unmarshalException, hpayload]
      exact .refl hE _
    · rw [unmarshal_other hroute hevent hexception, unmarshal_other hroute' hevent hexception]
      exact .error (hE _)

end Plan

/-! ## Headers that are passed over -/

theorem Plan.readHeaders_insert (hname : bindingFor? bindings h.name = none) (fields : Fields Doc)
    (before after : List Header) :
    readHeaders bindings fields (before ++ h :: after) =
      readHeaders bindings fields (before ++ after) := by
  rw [bindingFor?] at hname
  induction before generalizing fields with
  | nil => rw [List.nil_append, readHeaders, hname, List.nil_append]
  | cons first before ih =>
    simp only [List.cons_append, readHeaders, ih]

/-- A header of another name hides no header, and one behind the first of its name hides none
either. -/
theorem Frame.header?_insert (hh : h.name ≠ name ∨ ∃ h ∈ before, h.name = name)
    (hframe : frame.headers = before ++ after) (payload : Bytes) :
    ({ headers := before ++ h :: after, payload } : Frame).header? name = frame.header? name := by
  unfold header?
  rw [hframe, List.find?_append, List.find?_append, List.find?_cons]
  rcases hh with hne | hold
  · rw [beq_eq_false_iff_ne.mpr hne]
  · have hsome : (before.find? (·.name == name)).isSome = true := by
      simpa using hold
    rw [Option.or_of_isSome hsome, Option.or_of_isSome hsome]

/-! ## The order of the headers -/

/-- The same headers in another order, in which headers of one name follow each other as before. -/
structure Reordered (headers headers' : List Header) : Prop where
  perm : headers.Perm headers'
  stable : ∀ name, headers.filter (·.name == name) = headers'.filter (·.name == name)

namespace Reordered

theorem swap {h h' : Header} (hne : h.name ≠ h'.name) (headers : List Header) :
    Reordered (h :: h' :: headers) (h' :: h :: headers) where
  perm := .swap h' h headers
  stable name := by
    by_cases hname : h.name = name
    · have hname' : h'.name ≠ name := fun he => hne (hname.trans he.symm)
      simp [hname, hname']
    · simp [List.filter_cons, hname]

theorem header? (h : Reordered frame.headers frame'.headers) (name : String) :
    frame.header? name = frame'.header? name := by
  unfold Frame.header?
  rw [← List.head?_filter, ← List.head?_filter, h.stable]

theorem lastValue? (h : Reordered headers headers') (name : String) :
    (EventStream.lastValue? headers name : Option (Value Doc)) =
      EventStream.lastValue? headers' name := by
  unfold EventStream.lastValue?
  rw [← List.head?_filter, ← List.head?_filter, List.filter_reverse, List.filter_reverse, h.stable]

/-- Whether the headers fit does not depend on their order, nor do the fields. -/
theorem readsAlike (h : Reordered headers headers') (bindings : List HeaderBinding) :
    Plan.ReadsAlike Doc (fun _ _ => True) bindings headers headers' := by
  intro fields
  have hends := readHeaders_ends bindings headers fields
  have hends' := readHeaders_ends bindings headers' fields
  have hfits : (∀ x ∈ headers, Fits bindings x) ↔ ∀ x ∈ headers', Fits bindings x := by
    simp only [h.perm.mem_iff]
  cases hread : Plan.readHeaders bindings fields headers with
  | error e =>
    rw [hread] at hends
    have hbad := hends.of_error.not_all (·.not_fits)
    cases hread' : Plan.readHeaders bindings fields headers' with
    | error e' => exact .error trivial
    | ok found' =>
      rw [hread'] at hends'
      exact absurd (hfits.mpr hends'.of_ok.1) hbad
  | ok found =>
    rw [hread] at hends
    obtain ⟨hall, hvalues⟩ := hends.of_ok
    cases hread' : Plan.readHeaders bindings fields headers' with
    | error e' =>
      rw [hread'] at hends'
      exact absurd (hfits.mp hall) (hends'.of_error.not_all (·.not_fits))
    | ok found' =>
      rw [hread'] at hends'
      have hfound : found = found' := by
        apply Std.ExtTreeMap.ext_getElem?
        intro name
        rw [hvalues, hends'.of_ok.2, boundValue?, boundValue?]
        simp only [h.lastValue?]
      rw [hfound]
      exact .ok found'

end Reordered

/-! ## Plans over ids of words -/

/-- A header of the name is read by some event. -/
def Plan.Binds (plan : Plan) (name : String) : Prop :=
  ∃ branch ∈ plan.events, ∃ builder payload? bindings,
    branch.body = .bound builder payload? bindings ∧ ∃ binding ∈ bindings, binding.member = name

theorem bindingFor?_eq_none (hno : ¬plan.Binds name) {branch : EventBranch}
    (hb : branch ∈ plan.events) {builder : Symbol Code} {payload? : Option PayloadBinding}
    (hbody : branch.body = .bound builder payload? bindings) :
    bindingFor? bindings name = none := by
  rw [bindingFor?, List.find?_eq_none]
  intro binding hmem hname
  exact hno ⟨branch, hb, builder, payload?, bindings, hbody, binding, hmem, eq_of_beq hname⟩

theorem Plan.Built.isWord_of_binds (hbuilt : plan.Built ctx union) (hm : ctx.model.Worded)
    (hbinds : plan.Binds name) : Name.IsWord name := by
  obtain ⟨branch, hb, builder, payload?, bindings, hbody, binding, hbinding, rfl⟩ := hbinds
  obtain ⟨members, branches, -, hbranches, hevents, -⟩ := hbuilt.branches
  rw [hevents] at hb
  obtain ⟨either, hmem, hleft⟩ := List.mem_filterMap.mp hb
  rw [Sum.getLeft?_eq_some_iff] at hleft
  subst hleft
  obtain ⟨s, -, hof⟩ := exists_of_forall₂ hbranches hmem
  obtain ⟨-, -, target, fields, -, hfields, hof⟩ := hof
  rw [hbody] at hof
  obtain ⟨field, hfield, hof⟩ := exists_of_forall₂ hof.2 hbinding
  rw [hof.member]
  exact (isWords_of_membersOf hm hfields (List.mem_filter.mp hfield).1).memberName

theorem not_isWord_routingName : ∀ name ∈ routingNames, ¬Name.IsWord name := by
  decide

namespace Plan

/-- Decoding ignores headers that are not bound, further headers of a routing name, and the order
of headers of different names up to the choice of the error. -/
theorem unmarshal_ignores (hbuild : Plan.build ctx protocol operation union = .ok plan)
    (hm : ctx.model.Worded) (decoder : Decoder Doc) (frame : Frame) :
    (∀ before after h, frame.headers = before ++ after → h.name ∉ routingNames →
      ¬plan.Binds h.name →
        plan.unmarshal decoder { frame with headers := before ++ h :: after } =
          plan.unmarshal decoder frame) ∧
    (∀ h, h.name ∈ routingNames → (∃ first ∈ frame.headers, first.name = h.name) →
      plan.unmarshal decoder { frame with headers := frame.headers ++ [h] } =
        plan.unmarshal decoder frame) ∧
    ∀ headers, Reordered frame.headers headers →
      (∀ decoded, plan.unmarshal decoder frame = .ok decoded →
        plan.unmarshal decoder { frame with headers } = .ok decoded) ∧
      ((∃ e, plan.unmarshal decoder frame = .error e) →
        ∃ e, plan.unmarshal decoder { frame with headers } = .error e) := by
  have hinsert (before after : List Header) (h : Header)
      (hframe : frame.headers = before ++ after)
      (hrouting : ∀ name ∈ routingNames, h.name ≠ name ∨ ∃ h ∈ before, h.name = name)
      (hno : ¬plan.Binds h.name) :
      plan.unmarshal decoder { frame with headers := before ++ h :: after } =
        plan.unmarshal decoder frame := by
    apply Alike.eq
    refine unmarshal_alike (fun _ => rfl) rfl ?_ ?_
    · exact fun name hname => Frame.header?_insert (hrouting name hname) hframe _
    · intro branch hb builder payload? bindings hbody fields
      rw [readHeaders_insert (bindingFor?_eq_none hno hb hbody), ← hframe]
      exact .refl (fun _ => rfl) _
  refine ⟨?_, ?_, ?_⟩
  · intro before after h hframe hname hno
    apply hinsert before after h hframe _ hno
    exact fun name hmem => .inl fun he => hname (he ▸ hmem)
  · rintro h hname ⟨first, hfirst, hsame⟩
    apply hinsert frame.headers [] h (List.append_nil _).symm
    · intro name _
      by_cases hne : h.name = name
      · exact .inr ⟨first, hfirst, hsame.trans hne⟩
      · exact .inl hne
    · intro hbinds
      exact not_isWord_routingName _ hname ((built_of_build hbuild).isWord_of_binds hm hbinds)
  · intro headers hreordered
    have halike : Alike (fun _ _ => True) (plan.unmarshal decoder frame)
        (plan.unmarshal decoder { frame with headers }) :=
      unmarshal_alike (fun _ => trivial) rfl (fun name _ => hreordered.header? name)
        fun _ _ _ _ bindings _ => hreordered.readsAlike bindings
    exact ⟨fun decoded hdecoded => halike.eq_ok hdecoded, halike.exists_error⟩

/-- A reading whose level is given twice, with a header that is not bound in front, with a second
event type behind, and with the first level in front. -/
theorem unmarshal_ignores_twofold : ∃ plan,
    Plan.build readingsContext (Protocol.json "aws.protocols#restJson1" readingsContext)
      readingsUnion readingsUnion = .ok plan ∧ readingsContext.model.Worded ∧
    plan.unmarshal jsonDecoder
        { twofold with headers := ⟨"trace", .int64 5⟩ :: twofold.headers } =
      plan.unmarshal jsonDecoder twofold ∧
    plan.unmarshal jsonDecoder
        { twofold with headers := twofold.headers ++ [⟨":event-type", .bool false⟩] } =
      plan.unmarshal jsonDecoder twofold ∧
    ∀ decoded, plan.unmarshal jsonDecoder twofold = .ok decoded →
      plan.unmarshal jsonDecoder { twofold with headers :=
        ⟨"level", .int32 1⟩ :: ⟨":message-type", .string "event"⟩ :: twofold.headers.drop 2 } =
        .ok decoded := by
  obtain ⟨plan, builder, hplan, hevents⟩ := readings_planned
  have hm : readingsContext.model.Worded := readings_worded
  obtain ⟨hinsert, happend, horder⟩ := unmarshal_ignores hplan hm jsonDecoder twofold
  refine ⟨plan, hplan, hm, hinsert [] _ _ rfl (by decide) ?_, ?_, ?_⟩
  · rintro ⟨branch, hb, builder, payload?, bindings, hbody, binding, hbinding, hname⟩
    rw [hevents, List.mem_singleton] at hb
    subst hb
    cases hbody
    rw [List.mem_singleton] at hbinding
    subst hbinding
    exact absurd hname (by decide)
  · exact happend _ (by decide) ⟨⟨":event-type", .string "reading"⟩, by decide, rfl⟩
  · exact (horder _ (.swap (by decide) _)).1

end Plan

end CrateGen.EventStream
