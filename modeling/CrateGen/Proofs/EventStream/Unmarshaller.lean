import CrateGen.Proofs.EventStream.Agreement
import CrateGen.Proofs.EventStream.Planning
import CrateGen.Proofs.EventStream.PrintedPlan
import CrateGen.Proofs.Model.Built
import CrateGen.Proofs.Model.Lookup
import CrateGen.Proofs.Name.Word
import CrateGen.Proofs.Outcome
import CrateGen.Proofs.SortedMap

namespace CrateGen.EventStream

open CrateGen.Action Outcome
open Template (Clean)

variable {ctx : Context} {protocol : Protocol} {operation union : Shape} {plan : Plan}

/-! ## The union of an operation -/

section

variable {m : Model}

def targetsOf (m : Model) (ids : List ShapeId) : List Shape :=
  ids.filterMap fun x => (m.get? x).bind fun s => (m.memberTarget s).toOption

theorem unionOf?_eq {input output : Option ShapeId} {errors : List ShapeId}
    (hk : operation.kind = .operation input output errors) :
    unionOf? m operation = output.bind fun output => (m.get? output).bind fun s =>
      (targetsOf m s.memberIds).find? fun s => s.isUnion && s.traits.contains .streaming := by
  rw [unionOf?, hk]
  cases output <;> rfl

theorem isUnion_of_unionOf? (h : unionOf? m operation = some union) : union.isUnion = true := by
  cases hk : operation.kind with
  | operation input output errors =>
    rw [unionOf?_eq hk] at h
    obtain ⟨output, -, h⟩ := Option.bind_eq_some_iff.mp h
    obtain ⟨s, -, h⟩ := Option.bind_eq_some_iff.mp h
    have hfound := List.find?_some h
    rw [Bool.and_eq_true] at hfound
    exact hfound.1
  | _ =>
    simp only [unionOf?, hk] at h
    cases h

theorem mem_toList_of_unionOf? (h : unionOf? m operation = some union) : union ∈ m.toList := by
  cases hk : operation.kind with
  | operation input output errors =>
    rw [unionOf?_eq hk] at h
    obtain ⟨output, -, h⟩ := Option.bind_eq_some_iff.mp h
    obtain ⟨s, -, h⟩ := Option.bind_eq_some_iff.mp h
    obtain ⟨id, -, hid⟩ := List.mem_filterMap.mp (List.mem_of_find?_eq_some h)
    obtain ⟨member, -, htarget⟩ := Option.bind_eq_some_iff.mp hid
    cases hm : m.memberTarget member with
    | error e =>
      rw [hm] at htarget
      cases htarget
    | ok target =>
      rw [hm] at htarget
      cases htarget
      obtain ⟨i, -, hfound⟩ := Model.memberTarget_eq_ok.mp hm
      exact Model.mem_toList.mpr ⟨i, hfound⟩
  | _ =>
    simp only [unionOf?, hk] at h
    cases h

end

/-! ## What a plan is built of -/

structure PayloadBinding.Of (t : SymbolTable) (s : Shape) (binding : PayloadBinding) : Prop where
  member : binding.member = s.memberName
  field : binding.field = t.memberName s
  isOptional : binding.isOptional = !s.isRequired

structure HeaderBinding.Of (t : SymbolTable) (s : Shape) (binding : HeaderBinding) : Prop where
  member : binding.member = s.memberName
  field : binding.field = t.memberName s
  isOptional : binding.isOptional = !s.isRequired

/-- The bindings of a body are those of the fields of a structure that are marked, each with the
field of the same name. -/
def EventBody.Of (t : SymbolTable) (fields : List Shape) : EventBody → Prop
  | .bound _ payload headers =>
    Option.Rel (PayloadBinding.Of t) (fields.find? (·.traits.contains .eventPayload)) payload ∧
      List.Forall₂ (HeaderBinding.Of t) (fields.filter (·.traits.contains .eventHeader)) headers
  | _ => True

theorem payloadBinding_of {member : Shape} {binding : PayloadBinding}
    (h : Plan.payloadBinding ctx protocol operation member = .ok binding) :
    binding.Of ctx.symbols member := by
  obtain ⟨-, hbinding⟩ := Plan.payloadBinding_inversion h
  rw [hbinding]
  exact ⟨rfl, rfl, rfl⟩

theorem headerBinding_of {member : Shape} {binding : HeaderBinding}
    (h : Plan.headerBinding ctx member = .ok binding) : binding.Of ctx.symbols member := by
  rw [Plan.headerBinding_inversion h]
  exact ⟨rfl, rfl, rfl⟩

theorem eventBody_of {member target : Shape} {fields : List Shape} {body : EventBody}
    (h : Plan.Body ctx protocol operation member target fields body) :
    body.Of ctx.symbols fields := by
  cases h with
  | empty => trivial
  | payloadOnly => trivial
  | bound _ _ hpayload hheaders =>
    exact ⟨rel_imp hpayload fun _ _ => payloadBinding_of, hheaders.imp fun _ _ => headerBinding_of⟩

/-- An event is a member whose target is a structure, with the bindings of its fields. -/
structure EventBranch.Of (ctx : Context) (s : Shape) (branch : EventBranch) : Prop where
  eventType : branch.eventType = s.memberName
  variant : branch.variant = ctx.symbols.memberName s
  body : ∃ target fields, ctx.model.memberTarget s = .ok target ∧
    ctx.model.membersOf target = .ok fields ∧ branch.body.Of ctx.symbols fields

/-- An error is a member whose target has the name of the variant. -/
structure ErrorBranch.Of (ctx : Context) (s : Shape) (branch : ErrorBranch) : Prop where
  eventType : branch.eventType = s.memberName
  variant : ∃ target, ctx.model.memberTarget s = .ok target ∧ branch.variant = target.id.name

theorem branch_of {member : Shape} {branch : EventBranch ⊕ ErrorBranch}
    (h : Plan.Branch ctx protocol operation member branch) :
    branch.elim (EventBranch.Of ctx member) (ErrorBranch.Of ctx member) := by
  cases h with
  | event htarget _ _ hfields hbody =>
    exact ⟨rfl, rfl, _, _, htarget, hfields, eventBody_of hbody⟩
  | error htarget => exact ⟨rfl, _, htarget, rfl⟩

/-- A plan is built of the members of its union, each of which is an event or an error. -/
structure Plan.Built (ctx : Context) (union : Shape) (plan : Plan) : Prop where
  isUnion : union.isUnion = true
  unmarshaller : plan.unmarshaller =
    Name.pascalCase (Name.escape (Name.pascalCase union.id.name)) ++ "Unmarshaller"
  generic : plan.genericErrorParser.isSome = true ↔ plan.target = .client
  branches : ∃ members branches, ctx.model.membersOf union = .ok members ∧
    List.Forall₂ (fun s branch => branch.elim (EventBranch.Of ctx s) (ErrorBranch.Of ctx s))
      members branches ∧
    plan.events = branches.filterMap Sum.getLeft? ∧ plan.errors = branches.filterMap Sum.getRight?

theorem symbol_of_isUnion (h : union.isUnion = true) :
    ctx.symbols.symbol union = .ok (.named (SymbolTable.typeName union) "crate::types") := by
  rw [SymbolTable.symbol, SymbolTable.symbolWithin]
  rw [Shape.isUnion] at h
  cases hk : union.kind <;> rw [hk] at h <;> first | rfl | cases h

theorem Plan.built_of_build (h : Plan.build ctx protocol operation union = .ok plan) :
    plan.Built ctx union := by
  have hsources := sources_of_build h
  obtain ⟨members, branches, hmembers, hbranches, hevents, herrors⟩ := hsources.branches
  have hsymbol := Except.ok.inj
    ((symbol_of_isUnion hsources.isUnion).symm.trans hsources.symbol)
  refine ⟨hsources.isUnion, ?_, ?_, members, branches, hmembers, ?_, hevents, herrors⟩
  · rw [hsources.unmarshaller, ← hsymbol]
    dsimp only [Symbol.named, SymbolTable.typeName]
  · rw [hsources.generic, hsources.target]
    cases ctx.target <;> simp
  · exact hbranches.imp fun _ _ => branch_of

theorem isWords_of_membersOf {m : Model} (hm : m.Worded) {s member : Shape} {members : List Shape}
    (h : m.membersOf s = .ok members) (hmember : member ∈ members) : member.id.IsWords := by
  obtain ⟨id, -, hid⟩ := exists_of_forall₂ (mapM_eq_ok.mp h) hmember
  exact hm id member (Model.expect_eq_ok.mp hid)

theorem EventBody.Of.named (hm : ctx.model.Worded) {s : Shape} {fields : List Shape}
    (hfields : ctx.model.membersOf s = .ok fields) {body : EventBody}
    (h : body.Of ctx.symbols fields) : body.Named := by
  cases body with
  | empty type => trivial
  | payloadOnly parser => trivial
  | bound builder payload headers =>
    intro binding hb
    obtain ⟨hpayload, -⟩ := h
    obtain ⟨member, hmember, hof⟩ := exists_of_rel hpayload hb
    rw [hof.field]
    exact ctx.symbols.clean_memberName
      (isWords_of_membersOf hm hfields (List.mem_of_find?_eq_some hmember))

/-- Plans over ids of words write texts that can stand in templates. -/
theorem Plan.Built.named (h : plan.Built ctx union) (hm : ctx.model.Worded)
    (hu : union.id.IsWords) : plan.Named := by
  obtain ⟨members, branches, hmembers, hbranches, hevents, herrors⟩ := h.branches
  refine ⟨⟨_, hu.1.escape_pascalCase.pascalCase.clean, h.unmarshaller⟩, fun branch hb => ?_,
    fun branch hb => ?_⟩
  · rw [hevents] at hb
    obtain ⟨s, hs, hof⟩ := exists_of_mem_lefts hbranches hb
    obtain ⟨-, hvariant, target, fields, -, hfields, hbody⟩ := hof
    refine ⟨?_, hbody.named hm hfields⟩
    rw [hvariant]
    exact ctx.symbols.clean_memberName (isWords_of_membersOf hm hmembers hs)
  · rw [herrors] at hb
    obtain ⟨s, hs, hof⟩ := exists_of_mem_rights hbranches hb
    obtain ⟨htype, target, htarget, hvariant⟩ := hof
    obtain ⟨id, -, hid⟩ := Model.memberTarget_eq_ok.mp htarget
    rw [htype, hvariant]
    exact ⟨(isWords_of_membersOf hm hmembers hs).memberName.clean, (hm id target hid).1.clean⟩

/-- The unmarshaller of a plan is written wherever it is asked for, at the level that it is asked
for. -/
theorem Plan.exists_written (hm : ctx.model.Worded) (hu : union.id.IsWords)
    (h : Plan.build ctx protocol operation union = .ok plan) (depth : Nat) (w : Writer) :
    ∃ w', outcome (Code.run (depth + 1) plan.writeUnmarshaller) w = (.ok (), w') ∧
      w'.level = w.level := by
  have hnamed := (built_of_build h).named hm hu
  obtain ⟨ds, hrun⟩ := hnamed.writes w.scopes (Code.run depth) w rfl
  exact ⟨_, hrun, w.wrote_level plan.printed ds⟩

/-- A union of an event, with a header and a payload, and an error. -/
def readings : Model :=
  (((({} : Builder).structure "ns#Reading" []
      [⟨"level", "smithy.api#Integer", [.eventHeader, .required]⟩,
        ⟨"data", "smithy.api#Blob", [.eventPayload]⟩]).structure "ns#Fault" [.error .client]
      [⟨"message", "smithy.api#String", []⟩]).union "ns#Readings" [.streaming]
      [⟨"reading", "ns#Reading", []⟩, ⟨"fault", "ns#Fault", []⟩]).model

def readingsUnion : Shape where
  id := ⟨"ns", "Readings", none⟩
  kind := .union [⟨"ns", "Readings", some "reading"⟩, ⟨"ns", "Readings", some "fault"⟩]
  traits := .ofList [.streaming]

def readingsContext : Context where
  model := readings
  settings := { service := ⟨"ns", "Service", none⟩, moduleName := "readings" }

/-- A runtime with setters that are named after their members. -/
def readingsHost : Host Json.Value :=
  .ofSetters jsonDecoder fun _ setter => .ofList (setter.toList.drop 4)

/-- The setters of a plan are named after the members that they fill. -/
def Plan.settersFill (plan : Plan) (host : Host Json.Value) : Bool :=
  plan.events.all fun branch =>
    match branch.body with
    | .bound builder payload headers =>
      (payload.all fun binding =>
        host.slot builder (Name.setter binding.field) == binding.member) &&
      headers.all fun binding => host.slot builder (Name.setter binding.field) == binding.member
    | _ => true

theorem readings_checked :
    readings.toList.all (fun s => s.id.name.toList.all Name.isAsciiWord &&
      s.id.member.all fun m => m.toList.all Name.isAsciiWord) = true ∧
    readingsUnion.id.name.toList.all Name.isAsciiWord = true ∧
    (Plan.build readingsContext (Protocol.json "aws.protocols#restJson1" readingsContext)
      readingsUnion readingsUnion).toOption.any (·.settersFill readingsHost) = true := by
  decide +kernel

theorem readings_worded : readings.Worded := by
  intro id s hs
  have hword := List.all_eq_true.mp readings_checked.1 s (Model.mem_toList.mpr ⟨id, hs⟩)
  rw [Bool.and_eq_true, Option.all_eq_true] at hword
  exact ⟨hword.1, fun m hm => hword.2 m hm⟩

theorem exists_readingsPlan : ∃ plan,
    Plan.build readingsContext (Protocol.json "aws.protocols#restJson1" readingsContext)
      readingsUnion readingsUnion = .ok plan ∧ plan.settersFill readingsHost = true :=
  exists_of_any readings_checked.2.2

theorem readingsUnion_isWords : readingsUnion.id.IsWords :=
  ⟨readings_checked.2.1, nofun⟩

def feedUnion (name : String) : Shape where
  id := .root "ns" name
  kind := .union [⟨"ns", name, some "event"⟩]
  traits := .ofList [.streaming]

/-- An operation with a stream of one event. The name of its union is taken as it is, and the event
has the fields. -/
def feedBuilder (name : String) (fields : List MemberDef) : Builder :=
  ({} : Builder)
    |>.perform (.structure "ns#Event" [] fields)
    |>.perform (.add { id := ⟨"ns", name, some "event"⟩, kind := .member (.root "ns" "Event") })
    |>.perform (.add (feedUnion name))
    |>.perform (.add { id := ⟨"ns", "Output", some "stream"⟩, kind := .member (.root "ns" name) })
    |>.perform (.add
      { id := .root "ns" "Output", kind := .structure [⟨"ns", "Output", some "stream"⟩] })
    |>.perform (.operation "ns#Op" none (some "ns#Output") [])
    |>.perform (.service "ns#Service" "1" ["ns#Op"] [.protocol "aws.protocols#restJson1"])

def feed (name : String) (fields : List MemberDef) : Model :=
  (feedBuilder name fields).model

theorem feed_built {name : String} {fields : List MemberDef}
    (h : (feedBuilder name fields).build.1.toOption.isSome = true) : (feed name fields).Built :=
  Builder.Reached.built (.perform (.perform (.perform (.perform (.perform (.perform (.perform .start
    _) _) _) _) _) _) _) h

def feedOperation : Shape where
  id := .root "ns" "Op"
  kind := .operation none (some (.root "ns" "Output")) []

def feedSettings : Settings where
  service := .root "ns" "Service"
  moduleName := "feed"

def feedContext (name : String) (fields : List MemberDef) : Context where
  model := feed name fields
  settings := feedSettings

def feedPlan (name : String) (fields : List MemberDef) : Except Error Plan :=
  Plan.build (feedContext name fields)
    (.json "aws.protocols#restJson1" (feedContext name fields)) feedOperation (feedUnion name)

/-! ## Setters for two members -/

/-- Two members that have one setter. -/
def twinFields : List MemberDef :=
  [⟨"fooBar", "smithy.api#Integer", [.eventHeader]⟩,
    ⟨"foo_bar", "smithy.api#Integer", [.eventHeader]⟩]

def twinBindings : List HeaderBinding :=
  [⟨"fooBar", "foo_bar", true, .int32⟩, ⟨"foo_bar", "foo_bar", true, .int32⟩]

section

variable {Doc : Type} {builder : Symbol Code}

end

/-- Whether the only event is the one that has the bindings of both members. -/
def Plan.isTwinned (plan : Plan) : Bool :=
  match plan.events with
  | [⟨type, variant, .bound _ none headers⟩] =>
    type == "event" && variant == "Event" && headers == twinBindings
  | _ => false

/-- Whether a run of the code misses the key of a template. -/
def misses (key : String) {α σ : Type} (result : Except Halt α × σ) : Bool :=
  match result.1 with
  | .error (.failed (.missingTemplateKey missing _)) => missing == key
  | _ => false

theorem exists_of_misses {key : String} {α σ : Type} {result : Except Halt α × σ}
    (h : misses key result = true) :
    ∃ bound s, result = (.error (.failed (.missingTemplateKey key bound)), s) := by
  obtain ⟨result, s⟩ := result
  unfold misses at h
  split at h
  · next missing bound heq =>
    dsimp only at heq
    cases eq_of_beq h
    exact ⟨bound, s, by rw [heq]⟩
  · cases h

theorem feeds_checked :
    ((feedBuilder "Feed" twinFields).build.1.toOption.isSome = true ∧
      (∀ s ∈ (feed "Feed" twinFields).toList, s.id.IsWords) ∧ (feedUnion "Feed").id.IsWords ∧
      (feedPlan "Feed" twinFields).toOption.any Plan.isTwinned = true) ∧
    (feedBuilder "Feed#{x}" []).build.1.toOption.isSome = true ∧
    (feedPlan "Feed#{x}" []).toOption.any (fun plan =>
      misses "x" (outcome (Code.run 1 plan.writeUnmarshaller) (.ofModule .root))) = true := by
  decide +kernel

/-- In the name of a union a directive can stand. -/
theorem feed_unwritten : ∃ plan, feedPlan "Feed#{x}" [] = .ok plan ∧ ∃ bound w,
    outcome (Code.run 1 plan.writeUnmarshaller) (.ofModule .root) =
      (.error (.failed (.missingTemplateKey "x" bound)), w) := by
  obtain ⟨-, -, hmisses⟩ := feeds_checked
  obtain ⟨plan, h, hrun⟩ := exists_of_any hmisses
  exact ⟨plan, h, exists_of_misses hrun⟩

end CrateGen.EventStream
