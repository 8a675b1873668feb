import CrateGen.Proofs.EventStream.Recognition
import CrateGen.Proofs.SortedMap

/-!
How an event is put together from its payload and its headers. Decoding fails at the content type,
then at the payload, and then at the first bound header of the wrong type; otherwise each field
holds the last value of its header, or the payload.
-/

namespace CrateGen.EventStream

open Outcome Std

variable {Doc : Type} {decoder : Decoder Doc} {routing : Routing} {frame : Frame}
  {bindings : List HeaderBinding} {headers : List Header} {e : DecodeError}

/-! ## Headers -/

def HeaderValue.toValue : HeaderValue → Value Doc
  | bool b => .bool b
  | byte n => .byte n
  | int16 n => .int16 n
  | int32 n => .int32 n
  | int64 n => .int64 n
  | byteArray bytes => .blob bytes
  | string s => .string s
  | timestamp n => .timestamp n

def bindingFor? (bindings : List HeaderBinding) (name : String) : Option HeaderBinding :=
  bindings.find? (·.member == name)

def lastValue? (headers : List Header) (name : String) : Option (Value Doc) :=
  (headers.reverse.find? (·.name == name)).map (·.value.toValue)

/-- A header that is bound has the type of its binding. -/
def Fits (bindings : List HeaderBinding) (h : Header) : Prop :=
  ∀ binding ∈ bindingFor? bindings h.name, h.value.type = binding.type

inductive Mistyped (bindings : List HeaderBinding) (h : Header) : DecodeError → Prop where
  | intro {binding : HeaderBinding} (hb : bindingFor? bindings h.name = some binding)
    (ht : h.value.type ≠ binding.type) :
    Mistyped bindings h (.headerType h.name binding.type h.value.type)

theorem Mistyped.not_fits {h : Header} (hm : Mistyped bindings h e) : ¬Fits bindings h := by
  obtain ⟨hb, ht⟩ := hm
  exact fun hfits => ht (hfits _ hb)

theorem Mistyped.unique {h : Header} {e' : DecodeError} (hm : Mistyped bindings h e)
    (hm' : Mistyped bindings h e') : e = e' := by
  obtain ⟨hb, -⟩ := hm
  obtain ⟨hb', -⟩ := hm'
  cases hb.symm.trans hb'
  rfl

theorem HeaderValue.read?_eq (type : HeaderType) (v : HeaderValue) :
    v.read? type = if v.type = type then some (v.toValue : Value Doc) else none := by
  cases type <;> cases v <;> rfl

theorem Header.read_ends (type : HeaderType) (h : Header) :
    Ends (fun e => h.value.type ≠ type ∧ e = .headerType h.name type h.value.type)
      (fun v : Value Doc => h.value.type = type ∧ v = h.value.toValue) (h.read type) := by
  unfold Header.read
  rw [HeaderValue.read?_eq]
  by_cases ht : h.value.type = type
  · rw [if_pos ht]
    exact .ok ⟨ht, rfl⟩
  · rw [if_neg ht]
    exact .error ⟨ht, rfl⟩

theorem bindingFor?_member {name : String} {binding : HeaderBinding}
    (h : bindingFor? bindings name = some binding) : binding.member = name := by
  have hmember := List.find?_some h
  exact eq_of_beq hmember

theorem exists_bindingFor? {binding : HeaderBinding} (h : binding ∈ bindings) :
    ∃ first, bindingFor? bindings binding.member = some first := by
  rw [← Option.isSome_iff_exists, bindingFor?, List.find?_isSome]
  exact ⟨binding, h, beq_self_eq_true _⟩

def boundValue? (bindings : List HeaderBinding) (headers : List Header) (name : String) :
    Option (Value Doc) :=
  (bindingFor? bindings name).bind fun _ => lastValue? headers name

theorem lastValue?_cons (h : Header) (headers : List Header) (name : String) :
    lastValue? (h :: headers) name = (lastValue? headers name).or
      (if h.name = name then some (h.value.toValue : Value Doc) else none) := by
  unfold lastValue?
  rw [List.reverse_cons, List.find?_append, Option.map_or]
  congr 1
  by_cases hname : h.name = name <;> simp [hname]

theorem boundValue?_cons (h : Header) (headers : List Header) (name : String) :
    boundValue? bindings (h :: headers) name = (boundValue? bindings headers name).or
      (if h.name = name then (bindingFor? bindings name).map fun _ => h.value.toValue
        else none : Option (Value Doc)) := by
  unfold boundValue?
  cases bindingFor? bindings name with
  | none => simp
  | some binding => simp [lastValue?_cons]

theorem readHeaders_ends (bindings : List HeaderBinding) (headers : List Header)
    (fields : Fields Doc) :
    Ends (First (Fits bindings) (Mistyped bindings) headers)
      (fun fields' => (∀ h ∈ headers, Fits bindings h) ∧
        ∀ name : String, fields'[name]? = (boundValue? bindings headers name).or fields[name]?)
      (Plan.readHeaders bindings fields headers) := by
  induction headers generalizing fields with
  | nil =>
    refine .ok ⟨List.forall_mem_nil _, fun name => ?_⟩
    unfold boundValue? lastValue?
    cases bindingFor? bindings name <;> rfl
  | cons h headers ih =>
    rw [Plan.readHeaders]
    cases hb : bindings.find? (·.member == h.name) with
    | none =>
      have hfits : Fits bindings h := by
        intro binding hbinding
        cases hb.symm.trans hbinding
      refine ((ih fields).monoError fun e he => .later hfits he).mono ?_
      rintro fields' ⟨hall, hvalues⟩
      refine ⟨List.forall_mem_cons.mpr ⟨hfits, hall⟩, fun name => ?_⟩
      rw [hvalues, boundValue?_cons]
      split
      · next hname =>
        subst hname
        rw [bindingFor?, hb, Option.map_none, Option.or_none]
      · rw [Option.or_none]
    | some binding =>
      have hmember : binding.member = h.name := bindingFor?_member hb
      have hread : Ends (First (Fits bindings) (Mistyped bindings) (h :: headers))
          (fun v : Value Doc => h.value.type = binding.type ∧ v = h.value.toValue)
          (h.read binding.type) := by
        refine (h.read_ends binding.type).monoError fun e he => ?_
        obtain ⟨ht, rfl⟩ := he
        exact .here (.intro hb ht)
      refine hread.bind fun v hv => ?_
      obtain ⟨ht, rfl⟩ := hv
      have hfits : Fits bindings h := by
        intro binding' hbinding'
        cases hb.symm.trans hbinding'
        exact ht
      refine ((ih _).monoError fun e he => .later hfits he).mono ?_
      rintro fields' ⟨hall, hvalues⟩
      refine ⟨List.forall_mem_cons.mpr ⟨hfits, hall⟩, fun name => ?_⟩
      rw [hvalues, boundValue?_cons, hmember, ExtTreeMap.getElem?_insert, Option.or_assoc]
      congr 1
      by_cases hname : h.name = name
      · subst hname
        rw [if_pos ReflCmp.compare_self, if_pos rfl, bindingFor?, hb]
        rfl
      · rw [if_neg (mt LawfulEqCmp.compare_eq_iff_eq.mp hname), if_neg hname]
        rfl

/-! ## The payload -/

namespace PayloadBinding

variable (decoder routing frame) (binding : PayloadBinding)

/-- What the payload of a frame is read into. Blobs and texts need their content type; a missing one
counts as empty. -/
inductive Decodes : Value Doc → Prop where
  | blob (hk : binding.kind = .blob)
    (hc : routing.contentType.getD "" = "application/octet-stream") :
    Decodes (.blob frame.payload)
  | text {s : String} (hk : binding.kind = .text)
    (hc : routing.contentType.getD "" = "text/plain") (hs : Bytes.text? frame.payload = some s) :
    Decodes (.string s)
  | structured {parser : RuntimeType Code} {v : Value Doc} (hk : binding.kind = .structured parser)
    (hv : decoder.payload parser frame.payload = .ok v) : Decodes v

/-- Why the payload of a frame is not read. The content type is looked at first. -/
inductive Fails : DecodeError → Prop where
  | contentType {expected : String} (hk : binding.kind.contentType? = some expected)
    (hc : routing.contentType.getD "" ≠ expected) :
    Fails (.contentTypeMismatch expected (routing.contentType.getD ""))
  | utf8 (hk : binding.kind = .text) (hc : routing.contentType.getD "" = "text/plain")
    (hs : Bytes.text? frame.payload = none) : Fails .invalidUtf8
  | structured {parser : RuntimeType Code} {source : String}
    (hk : binding.kind = .structured parser)
    (hs : decoder.payload parser frame.payload = .error source) :
    Fails (.payload binding.field source)

end PayloadBinding

variable (decoder routing frame) in
theorem Plan.readPayload_ends (binding : PayloadBinding) :
    Ends (binding.Fails decoder routing frame) (binding.Decodes decoder routing frame)
      (readPayload decoder routing frame binding) := by
  -- The content type has been looked at where the kind asks for one.
  have hcheck : Ends (binding.Fails decoder routing frame)
      (fun _ => ∀ expected ∈ binding.kind.contentType?, routing.contentType.getD "" = expected)
      (binding.kind.checkContentType routing) := by
    unfold PayloadKind.checkContentType
    cases hk : binding.kind.contentType? with
    | none => exact .ok nofun
    | some expected =>
      dsimp only
      by_cases hc : routing.contentType.getD "" = expected
      · rw [if_pos (beq_iff_eq.mpr hc)]
        exact .ok fun expected' he => Option.mem_some.mp he ▸ hc
      · rw [if_neg (mt beq_iff_eq.mp hc)]
        exact .error (.contentType hk hc)
  refine hcheck.bind fun _ hc => ?_
  cases hk : binding.kind with
  | blob =>
    rw [hk] at hc
    exact .ok (.blob hk (hc _ rfl))
  | text =>
    rw [hk] at hc
    dsimp only
    split
    · next s hs => exact .ok (.text hk (hc _ rfl) hs)
    · next hs => exact .error (.utf8 hk (hc _ rfl) hs)
  | structured parser =>
    dsimp only
    cases hv : decoder.payload parser frame.payload with
    | ok v => exact .ok (.structured hk hv)
    | error source => exact .error (.structured hk hv)

namespace PayloadBinding

variable {binding : PayloadBinding} {v : Value Doc}

theorem Fails.not_decodes (h : binding.Fails decoder routing frame e) :
    ¬binding.Decodes decoder routing frame v := by
  have hends := Plan.readPayload_ends decoder routing frame binding
  intro hv
  cases h with
  | contentType hk hc =>
    cases hv with
    | blob hk' hc' | text hk' hc' =>
      rw [hk'] at hk
      cases hk
      exact hc hc'
    | structured hk' =>
      rw [hk'] at hk
      cases hk
  | utf8 hk hc hs =>
    cases hv with
    | blob hk' | structured hk' => cases hk.symm.trans hk'
    | text hk' hc' hs' => cases hs.symm.trans hs'
  | structured hk hs =>
    cases hv with
    | blob hk' | text hk' => cases hk.symm.trans hk'
    | structured hk' hv' =>
      cases hk.symm.trans hk'
      cases hs.symm.trans hv'

theorem Fails.unique {e' : DecodeError} (h : binding.Fails decoder routing frame e)
    (h' : binding.Fails decoder routing frame e') : e = e' := by
  cases h with
  | contentType hk hc =>
    cases h' with
    | contentType hk' => rw [Option.some.inj (hk.symm.trans hk')]
    | utf8 hk' hc' =>
      rw [hk'] at hk
      cases hk
      exact absurd hc' hc
    | structured hk' =>
      rw [hk'] at hk
      cases hk
  | utf8 hk hc =>
    cases h' with
    | contentType hk' hc' =>
      rw [hk] at hk'
      cases hk'
      exact absurd hc hc'
    | utf8 => rfl
    | structured hk' => cases hk.symm.trans hk'
  | structured hk hs =>
    cases h' with
    | contentType hk' =>
      rw [hk] at hk'
      cases hk'
    | utf8 hk' => cases hk.symm.trans hk'
    | structured hk' hs' =>
      cases hk.symm.trans hk'
      cases hs.symm.trans hs'
      rfl

end PayloadBinding

/-! ## The whole event -/

section

variable (decoder routing frame) (payload? : Option PayloadBinding) (bindings : List HeaderBinding)

/-- A bound event can be read. -/
structure Sound : Prop where
  payload : ∀ binding ∈ payload?, ∃ v, binding.Decodes decoder routing frame v
  headers : ∀ h ∈ frame.headers, Fits bindings h

/-- Why a bound event cannot be read; the payload is looked at before the headers. -/
inductive BoundFault : DecodeError → Prop where
  | payload {binding : PayloadBinding} {e : DecodeError} (hp : binding ∈ payload?)
    (h : binding.Fails decoder routing frame e) : BoundFault e
  | header {e : DecodeError}
    (hp : ∀ binding ∈ payload?, ∃ v, binding.Decodes decoder routing frame v)
    (h : First (Fits bindings) (Mistyped bindings) frame.headers e) : BoundFault e

/-- A header that is bound gives the field of the name a value. -/
def Supplies (name : String) : Prop :=
  (∃ binding ∈ bindings, binding.member = name) ∧ ∃ h ∈ frame.headers, h.name = name

/-- The fields of a bound event: the last values of the headers that are bound, and the payload
where no header has the same name. -/
structure Assembled (fields : Fields Doc) : Prop where
  headers : ∀ binding ∈ bindings, ∀ v, lastValue? frame.headers binding.member = some v →
    fields[binding.member]? = some v
  payload : ∀ binding ∈ payload?, ¬Supplies frame bindings binding.member →
    ∃ v, binding.Decodes decoder routing frame v ∧ fields[binding.member]? = some v
  only : ∀ name ∈ fields, (∃ binding ∈ payload?, binding.member = name) ∨
    Supplies frame bindings name

end

variable {payload? : Option PayloadBinding}

theorem BoundFault.not_sound (h : BoundFault decoder routing frame payload? bindings e) :
    ¬Sound decoder routing frame payload? bindings := by
  intro hsound
  cases h with
  | payload hp h =>
    obtain ⟨v, hv⟩ := hsound.payload _ hp
    exact h.not_decodes hv
  | header _ h => exact h.not_all (·.not_fits) hsound.headers

theorem BoundFault.unique {e' : DecodeError}
    (h : BoundFault decoder routing frame payload? bindings e)
    (h' : BoundFault decoder routing frame payload? bindings e') : e = e' := by
  cases h with
  | payload hp h =>
    cases h' with
    | payload hp' h' =>
      cases hp.symm.trans hp'
      exact h.unique h'
    | header hp' =>
      obtain ⟨v, hv⟩ := hp' _ hp
      exact (h.not_decodes hv).elim
  | header hp h =>
    cases h' with
    | payload hp' h' =>
      obtain ⟨v, hv⟩ := hp _ hp'
      exact (h'.not_decodes hv).elim
    | header _ h' => exact h.unique h' (·.not_fits) (·.unique ·)

theorem lastValue?_eq_none {name : String} :
    (lastValue? headers name : Option (Value Doc)) = none ↔ ∀ h ∈ headers, h.name ≠ name := by
  unfold lastValue?
  rw [Option.map_eq_none_iff, List.find?_eq_none]
  simp

theorem boundValue?_eq_none {name : String} :
    (boundValue? bindings frame.headers name : Option (Value Doc)) = none ↔
      ¬Supplies frame bindings name := by
  unfold boundValue? Supplies
  cases hb : bindingFor? bindings name with
  | none =>
    refine iff_of_true rfl ?_
    rintro ⟨⟨binding, hmem, rfl⟩, -⟩
    obtain ⟨first, hfirst⟩ := exists_bindingFor? hmem
    cases hb.symm.trans hfirst
  | some binding =>
    rw [Option.bind_some, lastValue?_eq_none]
    have hmem : ∃ binding ∈ bindings, binding.member = name :=
      ⟨binding, List.mem_of_find?_eq_some hb, bindingFor?_member hb⟩
    simp [hmem]

theorem assembled_of_values {fields start : Fields Doc}
    (hvalues : ∀ name : String,
      fields[name]? = (boundValue? bindings frame.headers name).or start[name]?)
    (hpayload : ∀ binding ∈ payload?, ∃ v, binding.Decodes decoder routing frame v ∧
      start[binding.member]? = some v)
    (hstart : ∀ name ∈ start, ∃ binding ∈ payload?, binding.member = name) :
    Assembled decoder routing frame payload? bindings fields where
  headers binding hb v hv := by
    obtain ⟨first, hfirst⟩ := exists_bindingFor? hb
    rw [hvalues, boundValue?, hfirst, Option.bind_some, hv]
    rfl
  payload binding hb hno := by
    obtain ⟨v, hv, hget⟩ := hpayload binding hb
    refine ⟨v, hv, ?_⟩
    rw [hvalues, boundValue?_eq_none.mpr hno, hget]
    rfl
  only name hname := by
    by_cases hsupplies : Supplies frame bindings name
    · exact .inr hsupplies
    · left
      apply hstart
      rw [SortedMap.mem_iff] at hname ⊢
      rwa [hvalues, boundValue?_eq_none.mpr hsupplies, Option.none_or] at hname

variable (decoder routing frame) in
theorem Plan.readBody_ends {branch : EventBranch} {builder : Symbol Code}
    (hbody : branch.body = .bound builder payload? bindings) :
    Ends (BoundFault decoder routing frame payload? bindings)
      (fun content => Sound decoder routing frame payload? bindings ∧
        ∃ fields, content = .fields fields ∧
          Assembled decoder routing frame payload? bindings fields)
      (readBody decoder routing frame branch) := by
  -- Before the headers are read, the only field is the one of the payload.
  have hheaders (start : Fields Doc)
      (hpayload : ∀ binding ∈ payload?, ∃ v, binding.Decodes decoder routing frame v ∧
        start[binding.member]? = some v)
      (hstart : ∀ name ∈ start, ∃ binding ∈ payload?, binding.member = name) :
      Ends (BoundFault decoder routing frame payload? bindings)
        (fun content => Sound decoder routing frame payload? bindings ∧
          ∃ fields, content = .fields fields ∧
            Assembled decoder routing frame payload? bindings fields)
        (do return Content.fields (← readHeaders bindings start frame.headers)) := by
    have hdecodes : ∀ binding ∈ payload?, ∃ v, binding.Decodes decoder routing frame v := by
      intro binding hb
      obtain ⟨v, hv, -⟩ := hpayload binding hb
      exact ⟨v, hv⟩
    have hread := readHeaders_ends bindings frame.headers start
    refine (hread.monoError fun e he => .header hdecodes he).bind fun fields hfields => .ok ?_
    exact ⟨⟨hdecodes, hfields.1⟩, fields, rfl, assembled_of_values hfields.2 hpayload hstart⟩
  unfold readBody
  rw [hbody]
  cases payload? with
  | none => exact hheaders ∅ nofun fun name hname => absurd hname ExtTreeMap.not_mem_empty
  | some binding =>
    have hread := readPayload_ends decoder routing frame binding
    refine (hread.monoError fun e he => .payload rfl he).bind fun v hv => ?_
    apply hheaders
    · intro binding' hb
      cases hb
      exact ⟨v, hv, ExtTreeMap.getElem?_insert_self⟩
    · intro name hname
      rcases ExtTreeMap.mem_insert.mp hname with hname | hname
      · exact ⟨binding, rfl, LawfulEqCmp.compare_eq_iff_eq.mp hname⟩
      · exact absurd hname ExtTreeMap.not_mem_empty

namespace Plan

variable {plan : Plan} {branch : EventBranch} {builder : Symbol Code}

/-- A bound event is decoded exactly when its payload and all headers that are bound can be read,
and fails at the first that cannot. -/
theorem unmarshal_bound (decoder : Decoder Doc) (hrouting : Routing.ofFrame frame = .ok routing)
    (hevent : routing.messageType = "event") (hbranch : plan.eventFor? routing.type = some branch)
    (hbody : branch.body = .bound builder payload? bindings) :
    ((∃ decoded, plan.unmarshal decoder frame = .ok decoded) ↔
      Sound decoder routing frame payload? bindings) ∧
    (∀ decoded, plan.unmarshal decoder frame = .ok decoded →
      ∃ fields, decoded = .event (.variant branch.variant (.fields fields)) ∧
        Assembled decoder routing frame payload? bindings fields) ∧
    ∀ e, plan.unmarshal decoder frame = .error e ↔
      BoundFault decoder routing frame payload? bindings e := by
  have hends : Ends (BoundFault decoder routing frame payload? bindings)
      (fun decoded => Sound decoder routing frame payload? bindings ∧
        ∃ fields, decoded = .event (.variant branch.variant (.fields fields)) ∧
          Assembled decoder routing frame payload? bindings fields)
      (plan.unmarshal decoder frame) := by
    rw [unmarshal_event hrouting hevent, unmarshalEvent_some hbranch]
    have hbody := readBody_ends decoder routing frame hbody
    cases hcontent : readBody decoder routing frame branch with
    | error e =>
      rw [hcontent] at hbody
      exact .error hbody.of_error
    | ok content =>
      rw [hcontent] at hbody
      obtain ⟨hsound, fields, rfl, hfields⟩ := hbody.of_ok
      exact .ok ⟨hsound, fields, rfl, hfields⟩
  have herror (e : DecodeError) : plan.unmarshal decoder frame = .error e ↔
      BoundFault decoder routing frame payload? bindings e :=
    hends.eq_error_iff (fun he hd => he.not_sound hd.1) (·.unique ·)
  refine ⟨?_, ?_, herror⟩
  · cases hd : plan.unmarshal decoder frame with
    | ok decoded =>
      rw [hd] at hends
      exact iff_of_true ⟨decoded, rfl⟩ hends.of_ok.1
    | error e => exact iff_of_false nofun ((herror e).mp hd).not_sound
  · intro decoded hd
    rw [hd] at hends
    exact hends.of_ok.2

/-- A reading whose level is given twice, among headers that are not bound. -/
def twofold : Frame where
  headers := [⟨":message-type", .string "event"⟩, ⟨"level", .int32 1⟩, ⟨"unit", .bool true⟩,
    ⟨":event-type", .string "reading"⟩, ⟨"level", .int32 2⟩,
    ⟨":content-type", .string "application/octet-stream"⟩]
  payload := [7]

theorem readings_planned : ∃ plan builder,
    Plan.build readingsContext (Protocol.json "aws.protocols#restJson1" readingsContext)
      readingsUnion readingsUnion = .ok plan ∧
    plan.events = [⟨"reading", "Reading",
      .bound builder (some ⟨"data", "data", true, .blob⟩) [⟨"level", "level", false, .int32⟩]⟩] :=
  ⟨_, _, rfl, rfl⟩

theorem unmarshal_bound_twofold : ∃ plan builder,
    Plan.build readingsContext (Protocol.json "aws.protocols#restJson1" readingsContext)
      readingsUnion readingsUnion = .ok plan ∧
    Routing.ofFrame twofold =
      .ok ⟨"event", "reading", some "application/octet-stream"⟩ ∧
    plan.eventFor? "reading" = some ⟨"reading", "Reading",
      .bound builder (some ⟨"data", "data", true, .blob⟩) [⟨"level", "level", false, .int32⟩]⟩ ∧
    ∃ fields, plan.unmarshal jsonDecoder twofold =
        .ok (.event (.variant "Reading" (.fields fields))) ∧
      fields["level"]? = some (.int32 2) ∧ fields["data"]? = some (.blob [7]) := by
  obtain ⟨plan, builder, hplan, hevents⟩ := readings_planned
  have hbranch : plan.eventFor? "reading" = some ⟨"reading", "Reading",
      .bound builder (some ⟨"data", "data", true, .blob⟩)
        [⟨"level", "level", false, .int32⟩]⟩ := by
    rw [eventFor?, hevents]
    rfl
  have hrouting : Routing.ofFrame twofold =
      .ok ⟨"event", "reading", some "application/octet-stream"⟩ := rfl
  obtain ⟨hok, hfields, -⟩ := unmarshal_bound jsonDecoder hrouting rfl hbranch rfl
  refine ⟨plan, builder, hplan, hrouting, hbranch, ?_⟩
  obtain ⟨decoded, hdecoded⟩ := hok.mpr {
    payload := by
      rintro _ ⟨⟩
      exact ⟨_, .blob rfl rfl⟩
    headers := by
      have hfree (name : String) (value : HeaderValue)
          (hname : bindingFor? [⟨"level", "level", false, .int32⟩] name = none) :
          Fits [⟨"level", "level", false, .int32⟩] ⟨name, value⟩ := by
        intro binding hb
        cases hname.symm.trans hb
      have hlevel (n : Int32) :
          Fits [⟨"level", "level", false, .int32⟩] ⟨"level", .int32 n⟩ := by
        rintro _ ⟨⟩
        rfl
      simp only [twofold, List.forall_mem_cons]
      exact ⟨hfree _ _ rfl, hlevel 1, hfree _ _ rfl, hfree _ _ rfl, hlevel 2, hfree _ _ rfl,
        List.forall_mem_nil _⟩ }
  obtain ⟨fields, rfl, hassembled⟩ := hfields decoded hdecoded
  refine ⟨fields, hdecoded, hassembled.headers _ List.mem_cons_self _ rfl, ?_⟩
  obtain ⟨v, hv, hget⟩ := hassembled.payload _ rfl (by
    rintro ⟨⟨binding, hb, hname⟩, -⟩
    cases List.mem_singleton.mp hb
    exact absurd hname (by decide))
  cases hv with
  | blob => exact hget
  | text hk => cases hk
  | structured hk => cases hk

end Plan

end CrateGen.EventStream
