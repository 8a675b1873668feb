import CrateGen.Proofs.EventStream.Recognition
import CrateGen.Proofs.Model.Built

/-!
Which events stay apart. A variant is named after its event in Pascal case, so two events share a
variant exactly when their names agree in that case, and an event takes the variant of the unknown
ones exactly when that is its name in that case. Nothing else can make two frames of different
types decode to one variant.
-/

namespace CrateGen

/-- Every member of the shape belongs to a union of the model. -/
def Shape.MembersOfUnions (m : Model) (s : Shape) : Prop :=
  ∀ id ∈ s.memberIds, (m.get? id.container).any Shape.isUnion = true

/-- The variant of a member of a union is its name in Pascal case. -/
theorem SymbolTable.memberName_of_union (t : SymbolTable) {s : Shape} {name : String}
    (h : (t.model.get? s.id.container).any Shape.isUnion = true)
    (hname : s.id.member = some name) : t.memberName s = Name.escape (Name.pascalCase name) := by
  rw [SymbolTable.memberName, h, hname]
  rfl

end CrateGen

namespace CrateGen.EventStream

open Outcome

variable {Doc : Type} {ctx : Context} {protocol : Protocol} {operation union : Shape}
  {plan : Plan} {decoder : Decoder Doc} {frame frame' : Frame} {type type' : String}
  {e e' : DecodedEvent Doc}

/-- The variant of the generated union that holds an event. -/
def DecodedEvent.variantName : DecodedEvent Doc → String
  | .variant name _ => name
  | .unknown => unknownVariant

namespace Plan

def Models (plan : Plan) (type : String) : Prop :=
  ∃ branch ∈ plan.events, branch.eventType = type

/-- The frame is an event of the type and decodes to `e`. -/
def Decodes (plan : Plan) (decoder : Decoder Doc) (frame : Frame) (type : String)
    (e : DecodedEvent Doc) : Prop :=
  ∃ routing, Routing.ofFrame frame = .ok routing ∧ routing.type = type ∧
    plan.unmarshal decoder frame = .ok (.event e)

theorem eventFor?_eq_none : plan.eventFor? type = none ↔ ¬plan.Models type := by
  simp only [eventFor?, List.find?_eq_none, beq_iff_eq, Models, not_exists, not_and]

theorem Decodes.unmarshalEvent (h : plan.Decodes decoder frame type e) : ∃ routing,
    routing.type = type ∧ plan.unmarshalEvent decoder routing frame = .ok e := by
  obtain ⟨routing, hrouting, htype, hdecode⟩ := h
  refine ⟨routing, htype, ?_⟩
  by_cases hevent : routing.messageType = "event"
  · rw [unmarshal_event hrouting hevent] at hdecode
    cases he : plan.unmarshalEvent decoder routing frame with
    | error _ =>
      rw [he] at hdecode
      cases hdecode
    | ok _ =>
      rw [he] at hdecode
      cases hdecode
      rfl
  by_cases hexception : routing.messageType = "exception"
  · rw [unmarshal_exception hrouting hexception] at hdecode
    cases he : plan.unmarshalError decoder routing frame <;> rw [he] at hdecode <;> cases hdecode
  · rw [unmarshal_other hrouting hevent hexception] at hdecode
    cases hdecode

theorem Decodes.of_models (h : plan.Decodes decoder frame type e) (hm : plan.Models type) :
    ∃ branch ∈ plan.events, branch.eventType = type ∧ e.variantName = branch.variant := by
  obtain ⟨routing, rfl, hdecode⟩ := h.unmarshalEvent
  cases hb : plan.eventFor? routing.type with
  | none => exact absurd hm (eventFor?_eq_none.mp hb)
  | some branch =>
    rw [unmarshalEvent_some hb] at hdecode
    rw [eventFor?] at hb
    have htype := List.find?_some hb
    refine ⟨branch, List.mem_of_find?_eq_some hb, eq_of_beq htype, ?_⟩
    cases hbody : readBody decoder routing frame branch with
    | error _ =>
      rw [hbody] at hdecode
      cases hdecode
    | ok content =>
      rw [hbody] at hdecode
      cases hdecode
      rfl

/-- Only clients decode an event that is not modeled. -/
theorem Decodes.of_not_models (h : plan.Decodes decoder frame type e) (hm : ¬plan.Models type) :
    plan.target = .client ∧ e = .unknown := by
  obtain ⟨routing, rfl, hdecode⟩ := h.unmarshalEvent
  rw [unmarshalEvent_none (eventFor?_eq_none.mpr hm)] at hdecode
  cases htarget : plan.target with
  | server =>
    rw [htarget] at hdecode
    cases hdecode
  | client =>
    rw [htarget] at hdecode
    exact ⟨rfl, (Except.ok.inj hdecode).symm⟩

end Plan

/-! ## The names of variants -/

namespace Plan

theorem Built.variant_eq (h : plan.Built ctx union) (hm : ctx.model.Worded)
    (hk : ctx.model.Keyed) (hu : union.MembersOfUnions ctx.model) :
    ∀ branch ∈ plan.events, Name.IsWord branch.eventType ∧
      branch.variant = Name.escape (Name.pascalCase branch.eventType) := by
  intro branch hb
  obtain ⟨members, branches, hmembers, hbranches, hevents, -⟩ := h.branches
  rw [hevents] at hb
  obtain ⟨either, hmem, hleft⟩ := List.mem_filterMap.mp hb
  rw [Sum.getLeft?_eq_some_iff] at hleft
  subst hleft
  obtain ⟨s, hs, hof⟩ := exists_of_forall₂ hbranches hmem
  obtain ⟨htype, hvariant, target, -, htarget, -⟩ := hof
  obtain ⟨id, hid, hget⟩ := exists_of_forall₂ (mapM_eq_ok.mp hmembers) hs
  have hget := Model.expect_eq_ok.mp hget
  cases hk hget
  obtain ⟨_, hkind, -⟩ := Model.memberTarget_eq_ok.mp htarget
  have hunion := hu s.id hid
  cases hname : s.id.member with
  | none =>
    -- its own container would be a member and a union at once
    have hroot : s.id.container = s.id := by
      rw [ShapeId.container, ← hname]
    rw [hroot, hget, Option.any_some, Shape.isUnion, hkind] at hunion
    cases hunion
  | some name =>
    have hword := (hm s.id s hget).memberName
    rw [Shape.memberName, hname, Option.getD_some] at hword htype
    rw [htype, hvariant]
    exact ⟨hword, ctx.symbols.memberName_of_union hunion hname⟩

/-- What decides whether the events of a plan stay apart once they are decoded. -/
structure TellsApart (plan : Plan) : Prop where
  variant : ∀ branch ∈ plan.events,
    branch.variant = Name.escape (Name.pascalCase branch.eventType)
  distinct : (plan.events.map (·.variant)).Nodup ↔
    (plan.events.map fun branch => Name.pascalCase branch.eventType).Nodup
  unknown : unknownVariant ∈ plan.events.map (·.variant) ↔
    unknownVariant ∈ plan.events.map fun branch => Name.pascalCase branch.eventType
  /-- Two modeled events meet in one variant exactly when their types agree in Pascal case. -/
  modeled : ∀ {Doc : Type} {decoder : Decoder Doc} {frame frame' type type' e e'},
    plan.Decodes decoder frame type e → plan.Decodes decoder frame' type' e' →
    plan.Models type → plan.Models type' →
      (e.variantName = e'.variantName ↔ Name.pascalCase type = Name.pascalCase type')
  /-- A modeled event meets one that is not exactly when it is called like the unknown ones; on
  servers nothing of the kind is decoded. -/
  unmodeled : ∀ {Doc : Type} {decoder : Decoder Doc} {frame frame' type type' e e'},
    plan.Decodes decoder frame type e → plan.Decodes decoder frame' type' e' →
    plan.Models type → ¬plan.Models type' → plan.target = .client ∧
      (e.variantName = e'.variantName ↔ Name.pascalCase type = unknownVariant)

theorem unknownVariant_isWord : Name.IsWord unknownVariant :=
  rfl

theorem escape_unknownVariant : Name.pascalCase unknownVariant = unknownVariant ∧
    Name.escape unknownVariant = unknownVariant := by
  decide +kernel

theorem escape_pascalCase_eq_unknown {name : String} (h : Name.IsWord name) :
    Name.escape (Name.pascalCase name) = unknownVariant ↔
      Name.pascalCase name = unknownVariant := by
  obtain ⟨hpascal, hescape⟩ := escape_unknownVariant
  have hinj := h.escape_pascalCase_inj unknownVariant_isWord
  rwa [hpascal, hescape] at hinj

/-- Over models whose ids are words, the events of a union of its own members stay apart exactly
when their names do in Pascal case. -/
theorem events_apart (h : Plan.build ctx protocol operation union = .ok plan)
    (hm : ctx.model.Worded) (hk : ctx.model.Keyed) (hu : union.MembersOfUnions ctx.model) :
    plan.TellsApart := by
  have hevents := (built_of_build h).variant_eq hm hk hu
  have hmodels {type : String} (ht : plan.Models type) : Name.IsWord type := by
    obtain ⟨branch, hb, rfl⟩ := ht
    exact (hevents branch hb).1
  have hname {Doc : Type} {decoder : Decoder Doc} {frame : Frame} {type : String}
      {e : DecodedEvent Doc} (he : plan.Decodes decoder frame type e) (ht : plan.Models type) :
      e.variantName = Name.escape (Name.pascalCase type) := by
    obtain ⟨branch, hb, rfl, heq⟩ := he.of_models ht
    rw [heq, (hevents branch hb).2]
  refine ⟨fun branch hb => (hevents branch hb).2, ?_, ?_, ?_, ?_⟩
  · unfold List.Nodup
    rw [List.pairwise_map, List.pairwise_map]
    apply List.Pairwise.iff_of_mem
    intro a b ha hb
    rw [(hevents a ha).2, (hevents b hb).2, Ne, Ne,
      (hevents a ha).1.escape_pascalCase_inj (hevents b hb).1]
  · rw [List.mem_map, List.mem_map]
    apply exists_congr
    intro branch
    apply and_congr_right
    intro hb
    rw [(hevents branch hb).2, escape_pascalCase_eq_unknown (hevents branch hb).1]
  · intro Doc decoder frame frame' type type' e e' he he' ht ht'
    rw [hname he ht, hname he' ht', (hmodels ht).escape_pascalCase_inj (hmodels ht')]
  · intro Doc decoder frame frame' type type' e e' he he' ht ht'
    obtain ⟨htarget, rfl⟩ := he'.of_not_models ht'
    refine ⟨htarget, ?_⟩
    rw [hname he ht]
    exact escape_pascalCase_eq_unknown (hmodels ht)

/-! ## Events that look alike -/

/-- Three events of one empty structure: two whose names differ in their words only, and one that
is called like the unknown ones. -/
def lookalikesBuilder : Builder :=
  ({} : Builder)
    |>.perform (.structure "ns#Event" [] [])
    |>.perform (.union "ns#Lookalikes" [.streaming]
      [⟨"fooBar", "ns#Event", []⟩, ⟨"foo_bar", "ns#Event", []⟩, ⟨"unknown", "ns#Event", []⟩])
    |>.perform (.structure "ns#Output" [] [⟨"stream", "ns#Lookalikes", []⟩])
    |>.perform (.operation "ns#Op" none (some "ns#Output") [])

def lookalikes : Model :=
  lookalikesBuilder.model

def lookalikesUnion : Shape where
  id := .root "ns" "Lookalikes"
  kind := .union [⟨"ns", "Lookalikes", some "fooBar"⟩, ⟨"ns", "Lookalikes", some "foo_bar"⟩,
    ⟨"ns", "Lookalikes", some "unknown"⟩]
  traits := .ofList [.streaming]

def lookalikesOperation : Shape where
  id := .root "ns" "Op"
  kind := .operation none (some (.root "ns" "Output")) []

def lookalikesContext : Context where
  model := lookalikes
  settings := { service := .root "ns" "Service", moduleName := "lookalikes" }

def lookalikesPlan : Except Error Plan :=
  Plan.build lookalikesContext (.json "aws.protocols#restJson1" lookalikesContext)
    lookalikesOperation lookalikesUnion

def bareEvent (type : String) : Frame where
  headers := [⟨":message-type", .string "event"⟩, ⟨":event-type", .string type⟩]

def decodesTo (plan : Plan) (type variant : String) : Bool :=
  match plan.unmarshal jsonDecoder (bareEvent type) with
  | .ok (.event e) => e.variantName == variant
  | _ => false

theorem decodes_of_decodesTo {variant : String} (h : decodesTo plan type variant = true) :
    ∃ e, plan.Decodes jsonDecoder (bareEvent type) type e ∧ e.variantName = variant := by
  rw [decodesTo] at h
  split at h
  · next e he => exact ⟨e, ⟨⟨"event", type, none⟩, rfl, rfl, he⟩, eq_of_beq h⟩
  · cases h

theorem lookalikes_checked :
    lookalikes.get? lookalikesUnion.id = some lookalikesUnion ∧
    lookalikes.get? lookalikesOperation.id = some lookalikesOperation ∧
    lookalikesUnion.memberIds.Nodup ∧
    (∀ s ∈ lookalikes.toList, s.id.IsWords) ∧
    (∀ id ∈ lookalikesUnion.memberIds, (lookalikes.get? id.container).any Shape.isUnion = true) ∧
    lookalikesPlan.toOption.any (fun plan => plan.target = .client &&
      plan.events.map (·.variant) = ["FooBar", "FooBar", "Unknown"] &&
      decodesTo plan "fooBar" "FooBar" && decodesTo plan "foo_bar" "FooBar" &&
      decodesTo plan "unknown" "Unknown" && decodesTo plan "other" "Unknown") = true := by
  decide +kernel

theorem lookalikes_built : lookalikes.Built := by
  have hreached : lookalikesBuilder.Reached := .perform (.perform (.perform (.perform .start _) _) _) _
  exact hreached.built (by decide +kernel)

theorem events_apart_lookalikes : ∃ plan,
    Plan.build lookalikesContext (.json "aws.protocols#restJson1" lookalikesContext)
      lookalikesOperation lookalikesUnion = .ok plan ∧
    lookalikes.Worded ∧ lookalikes.Keyed ∧ lookalikesUnion.MembersOfUnions lookalikes ∧
    plan.TellsApart := by
  obtain ⟨-, -, -, hwords, hunions, hok⟩ := lookalikes_checked
  obtain ⟨plan, h, -⟩ := exists_of_any hok
  have hworded : lookalikes.Worded := Model.worded_of_toList hwords
  exact ⟨plan, h, hworded, lookalikes_built.keyed, hunions,
    events_apart h hworded lookalikes_built.keyed hunions⟩

/-- Distinct members of a union whose events meet: two modeled ones in one variant, and one with
the events that are not modeled. -/
theorem events_meet : lookalikes.Built ∧
    lookalikes.get? lookalikesUnion.id = some lookalikesUnion ∧
    lookalikesUnion.memberIds.Nodup ∧ ∃ plan e₁ e₂ e₃ e₄,
      Plan.build lookalikesContext (.json "aws.protocols#restJson1" lookalikesContext)
        lookalikesOperation lookalikesUnion = .ok plan ∧
      plan.target = .client ∧ ¬(plan.events.map (·.variant)).Nodup ∧
      unknownVariant ∈ plan.events.map (·.variant) ∧
      plan.Decodes jsonDecoder (bareEvent "fooBar") "fooBar" e₁ ∧
      plan.Decodes jsonDecoder (bareEvent "foo_bar") "foo_bar" e₂ ∧
      e₁.variantName = e₂.variantName ∧
      plan.Decodes jsonDecoder (bareEvent "unknown") "unknown" e₃ ∧
      plan.Decodes jsonDecoder (bareEvent "other") "other" e₄ ∧
      e₃.variantName = e₄.variantName := by
  obtain ⟨hunion, -, hnodup, -, -, hok⟩ := lookalikes_checked
  obtain ⟨plan, h, hplan⟩ := exists_of_any hok
  simp only [Bool.and_eq_true, decide_eq_true_eq] at hplan
  obtain ⟨⟨⟨⟨⟨htarget, hvariants⟩, h₁⟩, h₂⟩, h₃⟩, h₄⟩ := hplan
  obtain ⟨e₁, he₁, hv₁⟩ := decodes_of_decodesTo h₁
  obtain ⟨e₂, he₂, hv₂⟩ := decodes_of_decodesTo h₂
  obtain ⟨e₃, he₃, hv₃⟩ := decodes_of_decodesTo h₃
  obtain ⟨e₄, he₄, hv₄⟩ := decodes_of_decodesTo h₄
  refine ⟨lookalikes_built, hunion, hnodup, plan, e₁, e₂, e₃, e₄, h, htarget, ?_, ?_, he₁, he₂,
    hv₁.trans hv₂.symm, he₃, he₄, hv₃.trans hv₄.symm⟩
  · rw [hvariants]
    decide
  · rw [hvariants]
    decide

end Plan

end CrateGen.EventStream
