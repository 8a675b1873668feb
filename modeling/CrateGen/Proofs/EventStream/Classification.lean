import CrateGen.Proofs.EventStream.Retargeting

/-!
What a plan makes of the members of a union. Members that target errors become error branches, the
others event branches, which are put together of what is marked of their fields. Planning fails at
the first member that it cannot read, and in that at the payload before any header.
-/

namespace CrateGen

theorem Shape.primitive?_eq_some {s : Shape} {type : Primitive} :
    s.primitive? = some type ↔ s.kind = .primitive type := by
  rw [Shape.primitive?]
  cases s.kind <;> simp

namespace EventStream

open Outcome

variable {ctx : Context} {m : Model} {operation union member target field : Shape}
  {fields members : List Shape} {name : String} {e : Error}

/-! ## What can be read -/

/-- The kinds that a payload is read into. -/
inductive IsPayload : ShapeKind → Prop where
  | blob : IsPayload (.primitive .blob)
  | text : IsPayload (.primitive .string)
  | aggregate (members : List ShapeId) : IsPayload (.structure members)
  | union (members : List ShapeId) : IsPayload (.union members)

/-- The kinds that a header is read into: the scalars except floats. -/
inductive IsHeader : ShapeKind → Prop where
  | scalar {type : Primitive} (hfloat : type ≠ .float) (hdouble : type ≠ .double) :
    IsHeader (.primitive type)

def ReadsPayload (m : Model) (field : Shape) : Prop :=
  ∃ target, m.Targets field target ∧ IsPayload target.kind

def ReadsHeader (m : Model) (field : Shape) : Prop :=
  ∃ target, m.Targets field target ∧ IsHeader target.kind

def payloadField? (fields : List Shape) : Option Shape :=
  fields.find? (·.traits.contains .eventPayload)

def headerFields (fields : List Shape) : List Shape :=
  fields.filter (·.traits.contains .eventHeader)

/-- The fields that are marked can be read. -/
structure Legible (m : Model) (fields : List Shape) : Prop where
  payload : ∀ field ∈ payloadField? fields, ReadsPayload m field
  headers : ∀ field ∈ headerFields fields, ReadsHeader m field

/-- A member of a union that targets an error, or a structure with fields that can be read. -/
inductive Readable (m : Model) (member : Shape) : Prop where
  | error {target : Shape} (ht : m.Targets member target) (hs : target.isStructure = true)
    (he : target.isError = true)
  | event {target : Shape} {fields : List Shape} (ht : m.Targets member target)
    (hs : target.isStructure = true) (he : target.isError = false)
    (hl : m.Listed target.memberIds fields) (h : Legible m fields)

/-! ## What cannot -/

inductive PayloadFault (m : Model) (field : Shape) : Error → Prop where
  | intro {target : Shape} (ht : m.Targets field target) (hk : ¬ IsPayload target.kind) :
    PayloadFault m field (.unexpectedShapeKind target.id "blob, string, structure or union")

inductive HeaderFault (m : Model) (field : Shape) : Error → Prop where
  | intro {target : Shape} (ht : m.Targets field target) (hk : ¬ IsHeader target.kind) :
    HeaderFault m field (.unsupportedEventHeader field.id target.id)

/-- Why the fields of an event cannot be read; the payload is looked at before the headers. -/
inductive FieldFault (m : Model) (fields : List Shape) : Error → Prop where
  | payload {field : Shape} {e : Error} (hf : payloadField? fields = some field)
    (h : PayloadFault m field e) : FieldFault m fields e
  | header {e : Error} (hp : ∀ field ∈ payloadField? fields, ReadsPayload m field)
    (h : First (ReadsHeader m) (HeaderFault m) (headerFields fields) e) : FieldFault m fields e

/-- Why a member of a union cannot be read. -/
inductive MemberFault (m : Model) (member : Shape) : Error → Prop where
  | target {target : Shape} (ht : m.Targets member target) (hs : target.isStructure = false) :
    MemberFault m member (.unexpectedShapeKind target.id "structure")
  | fields {target : Shape} {fields : List Shape} {e : Error} (ht : m.Targets member target)
    (hs : target.isStructure = true) (he : target.isError = false)
    (hl : m.Listed target.memberIds fields) (h : FieldFault m fields e) : MemberFault m member e

theorem PayloadFault.not_reads (h : PayloadFault m field e) : ¬ ReadsPayload m field := by
  obtain ⟨ht, hk⟩ := h
  rintro ⟨target, ht', hk'⟩
  exact hk (ht'.unique ht ▸ hk')

theorem PayloadFault.unique {e' : Error} (h : PayloadFault m field e)
    (h' : PayloadFault m field e') : e = e' := by
  obtain ⟨ht, -⟩ := h
  obtain ⟨ht', -⟩ := h'
  rw [ht.unique ht']

theorem HeaderFault.not_reads (h : HeaderFault m field e) : ¬ ReadsHeader m field := by
  obtain ⟨ht, hk⟩ := h
  rintro ⟨target, ht', hk'⟩
  exact hk (ht'.unique ht ▸ hk')

theorem HeaderFault.unique {e' : Error} (h : HeaderFault m field e) (h' : HeaderFault m field e') :
    e = e' := by
  obtain ⟨ht, -⟩ := h
  obtain ⟨ht', -⟩ := h'
  rw [ht.unique ht']

theorem FieldFault.not_legible (h : FieldFault m fields e) : ¬ Legible m fields := by
  intro hlegible
  cases h with
  | payload hf h => exact h.not_reads (hlegible.payload _ hf)
  | header _ h => exact h.not_all (·.not_reads) hlegible.headers

theorem FieldFault.unique {e' : Error} (h : FieldFault m fields e) (h' : FieldFault m fields e') :
    e = e' := by
  cases h with
  | payload hf h =>
    cases h' with
    | payload hf' h' =>
      cases hf.symm.trans hf'
      exact h.unique h'
    | header hp => exact (h.not_reads (hp _ hf)).elim
  | header hp h =>
    cases h' with
    | payload hf h' => exact (h'.not_reads (hp _ hf)).elim
    | header _ h' => exact h.unique h' (·.not_reads) (·.unique ·)

theorem MemberFault.not_readable (h : MemberFault m member e) : ¬ Readable m member := by
  intro hreadable
  cases h with
  | target ht hs =>
    cases hreadable with
    | error ht' hs' | event ht' hs' =>
      rw [ht.unique ht', hs'] at hs
      cases hs
  | fields ht _ he hl h =>
    cases hreadable with
    | error ht' _ he' =>
      rw [ht.unique ht', he'] at he
      cases he
    | event ht' _ _ hl' hlegible =>
      cases ht.unique ht'
      exact h.not_legible (hl.unique hl' ▸ hlegible)

theorem MemberFault.unique {e' : Error} (h : MemberFault m member e)
    (h' : MemberFault m member e') : e = e' := by
  cases h with
  | target ht hs =>
    cases h' with
    | target ht' => rw [ht.unique ht']
    | fields ht' hs' =>
      rw [ht.unique ht', hs'] at hs
      cases hs
  | fields ht hs _ hl h =>
    cases h' with
    | target ht' hs' =>
      rw [ht.unique ht', hs'] at hs
      cases hs
    | fields ht' _ _ hl' h' =>
      cases ht.unique ht'
      exact h.unique (hl.unique hl' ▸ h')

/-! ## What is read -/

def structureSymbol (s : Shape) : Symbol Code :=
  .named (SymbolTable.typeName s) (if s.isError then "crate::types::error" else "crate::types")

def payloadParser (s : Shape) : RuntimeType Code :=
  { path := Protocol.parserModule s ++ "::de_" ++ Protocol.parserName s ++ "_payload" }

def errorParser (s : Shape) : RuntimeType Code :=
  { path := Protocol.parserModule s ++ "::de_" ++ Protocol.parserName s ++ "_json_err" }

/-- How a payload is read into a shape. -/
inductive PayloadKind.Reads (target : Shape) : PayloadKind → Prop where
  | blob (hk : target.kind = .primitive .blob) : Reads target .blob
  | text (hk : target.kind = .primitive .string) : Reads target .text
  | structured (hk : target.isStructure = true ∨ target.isUnion = true) :
    Reads target (.structured (payloadParser target))

structure PayloadBinding.Reads (ctx : Context) (s : Shape) (binding : PayloadBinding) :
    Prop extends binding.Of ctx.symbols s where
  kind : ∃ target, ctx.model.Targets s target ∧ IsPayload target.kind ∧
    binding.kind.Reads target

structure HeaderBinding.Reads (ctx : Context) (s : Shape) (binding : HeaderBinding) :
    Prop extends binding.Of ctx.symbols s where
  type : ∃ target scalar, ctx.model.Targets s target ∧ target.kind = .primitive scalar ∧
    HeaderType.ofPrimitive? scalar = some binding.type

def IsBound (field : Shape) : Prop :=
  field.traits.contains .eventPayload = true ∨ field.traits.contains .eventHeader = true

/-- How an event with the given fields is put together. -/
inductive EventBody.Reads (ctx : Context) (target : Shape) (fields : List Shape) :
    EventBody → Prop where
  | empty (h : fields = []) : Reads ctx target fields (.empty (structureSymbol target))
  | payloadOnly (hne : fields ≠ []) (hno : ∀ field ∈ fields, ¬ IsBound field) :
    Reads ctx target fields (.payloadOnly (payloadParser target))
  | bound {payload : Option PayloadBinding} {headers : List HeaderBinding}
    (hb : ∃ field ∈ fields, IsBound field)
    (hp : Option.Rel (PayloadBinding.Reads ctx) (payloadField? fields) payload)
    (hh : List.Forall₂ (HeaderBinding.Reads ctx) (headerFields fields) headers) :
    Reads ctx target fields (.bound (structureSymbol target).builder payload headers)

structure EventBranch.Reads (ctx : Context) (member : Shape) (branch : EventBranch) : Prop where
  eventType : branch.eventType = member.memberName
  variant : branch.variant = ctx.symbols.memberName member
  body : ∃ target fields, ctx.model.Targets member target ∧ target.isStructure = true ∧
    target.isError = false ∧ ctx.model.Listed target.memberIds fields ∧
    branch.body.Reads ctx target fields

structure ErrorBranch.Reads (ctx : Context) (member : Shape) (branch : ErrorBranch) : Prop where
  eventType : branch.eventType = member.memberName
  error : ∃ target, ctx.model.Targets member target ∧ target.isStructure = true ∧
    target.isError = true ∧ branch.variant = target.id.name ∧
    branch.builder = (structureSymbol target).builder ∧ branch.parser = some (errorParser target)

inductive Classified (ctx : Context) :
    List Shape → List EventBranch → List ErrorBranch → Prop where
  | nil : Classified ctx [] [] []
  | event {member : Shape} {members : List Shape} {branch : EventBranch}
    {events : List EventBranch} {errors : List ErrorBranch} (h : branch.Reads ctx member)
    (hrest : Classified ctx members events errors) :
    Classified ctx (member :: members) (branch :: events) errors
  | error {member : Shape} {members : List Shape} {branch : ErrorBranch}
    {events : List EventBranch} {errors : List ErrorBranch} (h : branch.Reads ctx member)
    (hrest : Classified ctx members events errors) :
    Classified ctx (member :: members) events (branch :: errors)

theorem PayloadBinding.Reads.readsPayload {binding : PayloadBinding}
    (h : binding.Reads ctx field) : ReadsPayload ctx.model field := by
  obtain ⟨target, ht, hk, -⟩ := h.kind
  exact ⟨target, ht, hk⟩

theorem HeaderBinding.Reads.readsHeader {binding : HeaderBinding} (h : binding.Reads ctx field) :
    ReadsHeader ctx.model field := by
  obtain ⟨target, scalar, ht, hk, htype⟩ := h.type
  refine ⟨target, ht, ?_⟩
  rw [hk]
  refine .scalar ?_ ?_ <;>
    · rintro rfl
      cases htype

theorem EventBody.Reads.legible {body : EventBody} (h : body.Reads ctx target fields) :
    Legible ctx.model fields := by
  have hnone (hno : ∀ field ∈ fields, ¬ IsBound field) : Legible ctx.model fields := by
    constructor
    · intro field hfield
      have hmark := List.find?_some hfield
      exact (hno field (List.mem_of_find?_eq_some hfield) (.inl hmark)).elim
    · intro field hfield
      obtain ⟨hfield, hmark⟩ := List.mem_filter.mp hfield
      exact (hno field hfield (.inr hmark)).elim
  cases h with
  | empty h => exact hnone fun field hfield => by simp [h] at hfield
  | payloadOnly _ hno => exact hnone hno
  | bound _ hp hh =>
    constructor
    · intro field hfield
      rw [Option.mem_def.mp hfield] at hp
      cases hp with
      | some h => exact h.readsPayload
    · intro field hfield
      obtain ⟨binding, -, h⟩ := exists_of_forall₂_left hh hfield
      exact h.readsHeader

def Reads (ctx : Context) (member : Shape) (branch : EventBranch ⊕ ErrorBranch) : Prop :=
  branch.elim (EventBranch.Reads ctx member) (ErrorBranch.Reads ctx member)

theorem Reads.readable {branch : EventBranch ⊕ ErrorBranch} (h : Reads ctx member branch) :
    Readable ctx.model member := by
  cases branch with
  | inl branch =>
    obtain ⟨-, -, target, fields, ht, hs, he, hl, hbody⟩ := h
    exact .event ht hs he hl hbody.legible
  | inr branch =>
    obtain ⟨-, target, ht, hs, he, -⟩ := h
    exact .error ht hs he

theorem classified_of_reads {branches : List (EventBranch ⊕ ErrorBranch)}
    (h : List.Forall₂ (Reads ctx) members branches) :
    Classified ctx members (branches.filterMap Sum.getLeft?)
      (branches.filterMap Sum.getRight?) := by
  induction h with
  | nil => exact .nil
  | @cons member branch members branches h _ ih =>
    cases branch with
    | inl branch => exact .event h ih
    | inr branch => exact .error h ih

theorem Classified.readable {events : List EventBranch} {errors : List ErrorBranch}
    (h : Classified ctx members events errors) :
    ∀ member ∈ members, Readable ctx.model member := by
  induction h with
  | nil => exact List.forall_mem_nil _
  | @event member _ branch _ _ h _ ih =>
    have hreads : Reads ctx member (.inl branch) := h
    exact List.forall_mem_cons.mpr ⟨hreads.readable, ih⟩
  | @error member _ branch _ _ h _ ih =>
    have hreads : Reads ctx member (.inr branch) := h
    exact List.forall_mem_cons.mpr ⟨hreads.readable, ih⟩

/-! ## What planning does -/

theorem payloadParser_eq (ht : ctx.model.Targets member target) :
    (Protocol.json name ctx).payloadParser operation member = .ok (payloadParser target) := by
  change (ctx.model.memberTarget member >>= fun target => _) = _
  rw [Model.memberTarget_eq_ok.mpr ht]
  rfl

theorem payloadKind_ends (ht : ctx.model.Targets field target) :
    Ends (fun e => ¬ IsPayload target.kind ∧
        e = .unexpectedShapeKind target.id "blob, string, structure or union")
      (fun kind => IsPayload target.kind ∧ kind.Reads target)
      (Plan.payloadKind (.json name ctx) operation field target) := by
  unfold Plan.payloadKind
  split
  · next hk => exact .ok ⟨hk ▸ .blob, .blob hk⟩
  · next hk => exact .ok ⟨hk ▸ .text, .text hk⟩
  · next members hk =>
    rw [payloadParser_eq ht]
    exact .ok ⟨hk ▸ .aggregate members, .structured (.inl (by rw [Shape.isStructure, hk]))⟩
  · next members hk =>
    rw [payloadParser_eq ht]
    exact .ok ⟨hk ▸ .union members, .structured (.inr (by rw [Shape.isUnion, hk]))⟩
  · next hblob htext hstructure hunion =>
    refine .error ⟨?_, rfl⟩
    intro hk
    generalize hkind : target.kind = kind at hk
    cases hk with
    | blob => exact hblob hkind
    | text => exact htext hkind
    | aggregate members => exact hstructure members hkind
    | union members => exact hunion members hkind

theorem payloadBinding_ends (ht : ctx.model.Targets field target) :
    Ends (PayloadFault ctx.model field) (PayloadBinding.Reads ctx field)
      (Plan.payloadBinding ctx (.json name ctx) operation field) := by
  unfold Plan.payloadBinding
  rw [Model.memberTarget_eq_ok.mpr ht, ok_bind]
  have hkind : Ends (PayloadFault ctx.model field)
      (fun kind => IsPayload target.kind ∧ kind.Reads target)
      (Plan.payloadKind (.json name ctx) operation field target) := by
    apply (payloadKind_ends ht).monoError
    rintro e ⟨hk, rfl⟩
    exact .intro ht hk
  apply hkind.bind
  rintro kind ⟨hk, hreads⟩
  exact .ok ⟨⟨rfl, rfl, rfl⟩, target, ht, hk, hreads⟩

theorem headerBinding_ends (ht : ctx.model.Targets field target) :
    Ends (HeaderFault ctx.model field) (HeaderBinding.Reads ctx field)
      (Plan.headerBinding ctx field) := by
  unfold Plan.headerBinding
  rw [Model.memberTarget_eq_ok.mpr ht, ok_bind]
  split
  · next type htype =>
    obtain ⟨scalar, hscalar, htype⟩ := Option.bind_eq_some_iff.mp htype
    exact .ok ⟨⟨rfl, rfl, rfl⟩, target, scalar, ht, Shape.primitive?_eq_some.mp hscalar, htype⟩
  · next hnone =>
    refine .error (.intro ht ?_)
    intro hk
    generalize hkind : target.kind = kind at hk
    obtain ⟨hfloat, hdouble⟩ := hk
    rw [Shape.primitive?_eq_some.mpr hkind, Option.bind_some] at hnone
    rename Primitive => scalar
    cases scalar with
    | float => exact hfloat rfl
    | double => exact hdouble rfl
    | _ => cases hnone

theorem eventBody_ends (ht : ctx.model.Targets member target)
    (hs : target.isStructure = true)
    (hfields : ∀ field ∈ fields, ∃ t, ctx.model.Targets field t) :
    Ends (FieldFault ctx.model fields) (EventBody.Reads ctx target fields)
      (Plan.eventBody ctx (.json name ctx) operation member target fields) := by
  unfold Plan.eventBody
  dsimp only
  rw [symbol_of_isStructure _ hs, payloadParser_eq ht, ok_bind, ok_bind]
  split
  · next hempty => exact .ok (.empty (List.isEmpty_iff.mp hempty))
  next hempty =>
  split
  · next hno =>
    refine .ok (.payloadOnly (mt List.isEmpty_iff.mpr hempty) ?_)
    intro field hfield hb
    rw [List.any_eq_true.mpr ⟨field, hfield, Bool.or_eq_true_iff.mpr hb⟩] at hno
    cases hno
  · next hany =>
    rw [Bool.not_eq_true', Bool.not_eq_false, List.any_eq_true] at hany
    obtain ⟨bound, hbound, hmark⟩ := hany
    have hpayload : Ends (FieldFault ctx.model fields)
        (Option.Rel (PayloadBinding.Reads ctx) (payloadField? fields))
        ((payloadField? fields).mapM (Plan.payloadBinding ctx (.json name ctx) operation)) := by
      apply Ends.optionMapM_rel
      intro field hfield
      obtain ⟨t, ht⟩ := hfields field (List.mem_of_find?_eq_some hfield)
      exact (payloadBinding_ends ht).monoError fun e he => .payload hfield he
    apply hpayload.bind
    intro payload hp
    have hread : ∀ field ∈ payloadField? fields, ReadsPayload ctx.model field := by
      intro field hfield
      rw [Option.mem_def.mp hfield] at hp
      cases hp with
      | some h => exact h.readsPayload
    have hheaders : Ends (First (ReadsHeader ctx.model) (HeaderFault ctx.model)
        (headerFields fields)) (List.Forall₂ (HeaderBinding.Reads ctx) (headerFields fields))
        ((headerFields fields).mapM (Plan.headerBinding ctx)) := by
      refine Ends.mapM_first ?_ (·.readsHeader)
      intro field hfield
      obtain ⟨t, ht⟩ := hfields field (List.mem_of_mem_filter hfield)
      exact headerBinding_ends ht
    apply (hheaders.monoError fun e he => FieldFault.header hread he).bind
    intro headers hh
    exact .ok (.bound ⟨bound, hbound, Bool.or_eq_true_iff.mp hmark⟩ hp hh)

theorem errorParser_eq (hs : target.isStructure = true) (he : target.isError = true) :
    (Protocol.json name ctx).errorParser operation target = .ok (some (errorParser target)) := by
  simp only [Protocol.json, hs, he]
  rfl

theorem branch_ends (hw : ctx.model.WellFormed) (ht : ctx.model.Targets member target) :
    Ends (MemberFault ctx.model member) (Reads ctx member)
      (Plan.branch ctx (.json name ctx) operation member) := by
  unfold Plan.branch
  rw [Model.memberTarget_eq_ok.mpr ht, ok_bind]
  cases hs : target.isStructure with
  | false => exact .error (.target ht hs)
  | true =>
  simp only [Bool.not_true, Bool.false_eq_true, ↓reduceIte]
  split
  · next he =>
    rw [symbol_of_isStructure _ hs, errorParser_eq hs he]
    exact .ok ⟨rfl, target, ht, hs, he, rfl, rfl, rfl⟩
  · next he =>
    have he := Bool.eq_false_iff.mpr he
    obtain ⟨id, -, htarget⟩ := id ht
    obtain ⟨fields, hfields, hl⟩ := Model.Closed.exists_membersOf hw.built.closed htarget
    rw [hfields, ok_bind]
    have htargets : ∀ field ∈ fields, ∃ t, ctx.model.Targets field t := by
      intro field hfield
      obtain ⟨x, hx, hget⟩ := exists_of_forall₂ hl hfield
      exact hw.exists_target htarget hx hget
    have hbody : Ends (MemberFault ctx.model member) (EventBody.Reads ctx target fields)
        (Plan.eventBody ctx (.json name ctx) operation member target fields) :=
      (eventBody_ends ht hs htargets).monoError fun e h => .fields ht hs he hl h
    apply hbody.bind
    intro body hreads
    exact .ok ⟨rfl, rfl, target, fields, ht, hs, he, hl, hreads⟩

theorem build_ends (hw : ctx.model.WellFormed) {id : ShapeId}
    (hunion : ctx.model.get? id = some union) (hu : union.isUnion = true)
    (hl : ctx.model.Listed union.memberIds members) (name : String) (operation : Shape) :
    Ends (First (Readable ctx.model) (MemberFault ctx.model) members)
      (fun plan => Classified ctx members plan.events plan.errors)
      (Plan.build ctx (.json name ctx) operation union) := by
  have hmembers : ctx.model.membersOf union = .ok members :=
    mapM_eq_ok.mpr (hl.imp fun _ _ => Model.expect_eq_ok.mpr)
  unfold Plan.build
  rw [hu, symbol_of_isUnion hu, hmembers]
  have hbranches : Ends (First (Readable ctx.model) (MemberFault ctx.model) members)
      (List.Forall₂ (Reads ctx) members)
      (members.mapM (Plan.branch ctx (.json name ctx) operation)) := by
    refine Ends.mapM_first ?_ (·.readable)
    intro member hmember
    obtain ⟨i, hi, hget⟩ := exists_of_forall₂ hl hmember
    obtain ⟨target, ht⟩ := hw.exists_target hunion hi hget
    exact branch_ends hw ht
  exact hbranches.bind fun branches h => .ok (classified_of_reads h)

/-- A union is planned exactly when all its members can be read, each as an event or an error in
the order of the members; otherwise the first that cannot be read is reported. -/
theorem Plan.build_classifies (hw : ctx.model.WellFormed)
    (hunion : ctx.model.get? union.id = some union) (hu : union.isUnion = true) (name : String)
    (operation : Shape) :
    ∃ members, ctx.model.Listed union.memberIds members ∧
      ((∃ plan, Plan.build ctx (.json name ctx) operation union = .ok plan) ↔
        ∀ member ∈ members, Readable ctx.model member) ∧
      (∀ e, Plan.build ctx (.json name ctx) operation union = .error e ↔
        First (Readable ctx.model) (MemberFault ctx.model) members e) ∧
      ∀ plan, Plan.build ctx (.json name ctx) operation union = .ok plan →
        Classified ctx members plan.events plan.errors := by
  obtain ⟨members, -, hl⟩ := Model.Closed.exists_membersOf hw.built.closed hunion
  have hends := build_ends hw hunion hu hl name operation
  refine ⟨members, hl, ?_⟩
  cases hb : Plan.build ctx (.json name ctx) operation union with
  | ok plan =>
    rw [hb] at hends
    have hclassified := hends.of_ok
    have hall := hclassified.readable
    refine ⟨iff_of_true ⟨plan, rfl⟩ hall, ?_, ?_⟩
    · intro e
      exact iff_of_false nofun fun h => h.not_all (·.not_readable) hall
    · intro plan' h
      rw [← Except.ok.inj h]
      exact hclassified
  | error e =>
    rw [hb] at hends
    have hfirst := hends.of_error
    refine ⟨iff_of_false nofun (hfirst.not_all (·.not_readable)), ?_, nofun⟩
    intro e'
    constructor
    · intro h
      rw [← Except.error.inj h]
      exact hfirst
    · intro h
      rw [hfirst.unique h (·.not_readable) (·.unique ·)]

/-! ## A union with a member that cannot be read -/

/-- The last event has a header that is a float, before a payload that is a number. -/
def signalsBuilder : Builder :=
  ({} : Builder)
    |>.perform (.structure "ns#Fault" [.error .client] [⟨"code", "smithy.api#String", []⟩])
    |>.perform (.structure "ns#Ping" [] [])
    |>.perform (.structure "ns#Sample" []
      [⟨"ratio", "smithy.api#Double", [.eventHeader]⟩,
        ⟨"level", "smithy.api#Integer", [.eventPayload]⟩])
    |>.perform (.union "ns#Signals" [.streaming]
      [⟨"fault", "ns#Fault", []⟩, ⟨"ping", "ns#Ping", []⟩, ⟨"sample", "ns#Sample", []⟩])
    |>.perform (.structure "ns#Output" [] [⟨"signals", "ns#Signals", []⟩])
    |>.perform (.operation "ns#Listen" none (some "ns#Output") [])

def signals : Model :=
  signalsBuilder.model

def signalsUnion : Shape where
  id := .root "ns" "Signals"
  kind := .union [⟨"ns", "Signals", some "fault"⟩, ⟨"ns", "Signals", some "ping"⟩,
    ⟨"ns", "Signals", some "sample"⟩]
  traits := .ofList [.streaming]

def signalsOperation : Shape where
  id := .root "ns" "Listen"
  kind := .operation none (some (.root "ns" "Output")) []

def signalsContext : Context where
  model := signals
  settings := { service := .root "ns" "Service", moduleName := "signals" }

def signalsFault : Error :=
  .unexpectedShapeKind (.root "smithy.api" "Integer") "blob, string, structure or union"

theorem signals_checked :
    signalsBuilder.build.1.toOption.isSome = true ∧
    (∀ s ∈ signals.toList, ∀ x ∈ s.kind.ownedMembers,
      x = s.id.withMember (x.member.getD "") ∧ ((signals.get? x).bind Shape.target?).isSome) ∧
    (∀ s ∈ signals.toList, signals.contains s.id.container = true) ∧
    signals.get? signalsUnion.id = some signalsUnion := by
  decide +kernel

theorem signals_wellFormed : signals.WellFormed :=
  .of_toList
    (Builder.Reached.built
      (.perform (.perform (.perform (.perform (.perform (.perform .start _) _) _) _) _) _)
      signals_checked.1)
    signals_checked.2.1 signals_checked.2.2.1

theorem signals_refused :
    Plan.build signalsContext (.json "aws.protocols#restJson1" signalsContext) signalsOperation
      signalsUnion = .error signalsFault := by
  rfl

theorem Plan.build_classifies_signals :
    signals.WellFormed ∧ signals.get? signalsUnion.id = some signalsUnion ∧
      signalsUnion.isUnion = true ∧
      Plan.build signalsContext (.json "aws.protocols#restJson1" signalsContext) signalsOperation
        signalsUnion = .error signalsFault ∧
      ∃ members, signals.Listed signalsUnion.memberIds members ∧
        First (Readable signals) (MemberFault signals) members signalsFault := by
  have hget := signals_checked.2.2.2
  have hw : signalsContext.model.WellFormed := signals_wellFormed
  obtain ⟨members, hl, -, herror, -⟩ :=
    Plan.build_classifies hw hget rfl "aws.protocols#restJson1" signalsOperation
  exact ⟨hw, hget, rfl, signals_refused, members, hl, (herror _).mp signals_refused⟩

end EventStream

end CrateGen
