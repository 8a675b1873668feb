import CrateGen.EventStream.Unmarshal
import CrateGen.Proofs.EventStream.Unmarshaller
import CrateGen.Proofs.Extraction.Idempotence

namespace CrateGen

open Outcome

variable {m m' : Model} {id : ShapeId} {s s' t t' target target' : Shape}

/-- Scalars, enums, lists and maps. -/
def ShapeKind.isPlain : ShapeKind → Bool
  | .primitive _ | .enum _ | .list _ | .map _ _ => true
  | _ => false

/-- The constrained members of structures target scalars, enums, lists and maps only. -/
def Model.ConstrainsPlain (m : Model) : Prop :=
  ∀ s ∈ m.toList, s.isStructure = true → ∀ x ∈ s.memberIds, ∀ member ∈ m.get? x,
    member.traits.isConstrained = true →
      ∀ target ∈ (m.memberTarget member).toOption, target.kind.isPlain = true

instance (m : Model) : Decidable m.ConstrainsPlain :=
  inferInstanceAs <| Decidable <| ∀ s ∈ m.toList, s.isStructure = true → ∀ x ∈ s.memberIds,
    ∀ member ∈ m.get? x, member.traits.isConstrained = true →
      ∀ target ∈ (m.memberTarget member).toOption, target.kind.isPlain = true

namespace Extraction

/-- A target that planning takes as it takes another one: a shape of the model itself, or one that
is neither a structure nor a union, as the other, and the same scalar if any. -/
inductive StandsFor (m : Model) : Shape → Shape → Prop where
  | same {s : Shape} (hs : m.get? s.id = some s) : StandsFor m s s
  | other {s s' : Shape} (haggregate : s.isStructure = false ∧ s.isUnion = false)
      (haggregate' : s'.isStructure = false ∧ s'.isUnion = false)
      (hprimitive : s'.primitive? = s.primitive?) : StandsFor m s s'

/-- A shape after a pass that gives members other targets and takes constraints off them. -/
structure Retargeted (m m' : Model) (s s' : Shape) : Prop where
  known : m.get? s.id = some s
  id : s'.id = s.id
  traits : ∀ {k}, k.isConstraint = false → s'.traits.get? k = s.traits.get? k
  kind : s' = s ∨ ∃ t t', s.kind = .member t ∧ s'.kind = .member t'
  target : Agree (StandsFor m) (m.memberTarget s) (m'.memberTarget s')

theorem StandsFor.isStructure (h : StandsFor m s s') : s'.isStructure = s.isStructure := by
  cases h with
  | same => rfl
  | other ha ha' => rw [ha.1, ha'.1]

theorem StandsFor.isUnion (h : StandsFor m s s') : s'.isUnion = s.isUnion := by
  cases h with
  | same => rfl
  | other ha ha' => rw [ha.2, ha'.2]

theorem StandsFor.primitive? (h : StandsFor m s s') : s'.primitive? = s.primitive? := by
  cases h with
  | same => rfl
  | other _ _ hprimitive => exact hprimitive

theorem StandsFor.of_isStructure (h : StandsFor m s s') (hs : s.isStructure = true) :
    s' = s ∧ m.get? s.id = some s := by
  cases h with
  | same hget => exact ⟨rfl, hget⟩
  | other ha =>
    rw [ha.1] at hs
    cases hs

theorem StandsFor.of_isUnion (h : StandsFor m s s') (hs : s.isUnion = true) :
    s' = s ∧ m.get? s.id = some s := by
  cases h with
  | same hget => exact ⟨rfl, hget⟩
  | other ha =>
    rw [ha.2] at hs
    cases hs

theorem StandsFor.of_members {i i' : ShapeId} (hs : s.kind = .member i)
    (hs' : s'.kind = .member i') : StandsFor m s s' := by
  refine .other ⟨?_, ?_⟩ ⟨?_, ?_⟩ ?_ <;>
    simp only [Shape.isStructure, Shape.isUnion, Shape.primitive?, hs, hs']

theorem StandsFor.of_plain (hs : s.kind.isPlain = true) {f : ShapeId → ShapeId}
    (hs' : s'.kind = s.kind.mapMembers f) : StandsFor m s s' := by
  refine .other ⟨?_, ?_⟩ ⟨?_, ?_⟩ ?_ <;>
    simp only [Shape.isStructure, Shape.isUnion, Shape.primitive?, hs'] <;>
    cases hk : s.kind <;> rw [hk] at hs <;> first | rfl | cases hs

theorem Retargeted.contains (h : Retargeted m m' s s') {k : TraitKind}
    (hk : k.isConstraint = false) : s'.traits.contains k = s.traits.contains k := by
  rw [Traits.contains, Traits.contains, h.traits hk]

theorem Retargeted.isUnion (h : Retargeted m m' s s') : s'.isUnion = s.isUnion := by
  rcases h.kind with rfl | ⟨t, t', hs, hs'⟩
  · rfl
  · simp only [Shape.isUnion, hs, hs']

theorem Retargeted.memberIds (h : Retargeted m m' s s') : s'.memberIds = s.memberIds := by
  rcases h.kind with rfl | ⟨t, t', hs, hs'⟩
  · rfl
  · simp only [Shape.memberIds, hs, hs']

/-- Every shape stays in place, up to the targets of members. -/
def Retargets (m m' : Model) : Prop :=
  ∀ {id s}, m.get? id = some s → ∃ s', m'.get? id = some s' ∧ Retargeted m m' s s'

theorem Lifting.retargets (hw : m.WellFormed) (hplain : m.ConstrainsPlain) (hl : Lifting m m') :
    Retargets m m' := by
  intro id s hs
  have hknown {id s} (hs : m.get? id = some s) : m.get? s.id = some s := by
    rw [hw.built.keyed hs]
    exact hs
  -- what a target becomes, whatever its own target becomes
  have hshape {id s} (hs : m.get? id = some s) : ∃ s', m'.get? id = some s' ∧ StandsFor m s s' := by
    by_cases hsite : m.Site id s
    · obtain ⟨n, target, hlift, hget⟩ := hl.moved hsite
      obtain ⟨i, hi, -⟩ := hlift.target_eq
      exact ⟨_, hget, .of_members hi rfl⟩
    · exact ⟨s, hl.kept hs hsite, .same (hknown hs)⟩
  by_cases hsite : m.Site id s
  · obtain ⟨n, target, hlift, hget⟩ := hl.moved hsite
    obtain ⟨i, hi, htarget⟩ := hlift.target_eq
    have hfound : m.memberTarget s = .ok target := Model.memberTarget_eq_ok.mpr ⟨i, hi, htarget⟩
    have hkind : target.kind.isPlain = true := by
      obtain ⟨⟨c, container, -, hc, hst, hmem, -⟩, hcon⟩ := hsite
      refine hplain container (Model.mem_toList.mpr ⟨c, hc⟩) hst id hmem s hs hcon target ?_
      rw [hfound]
      exact rfl
    refine ⟨_, hget, hknown hs, (hw.built.keyed hs).symm, ?_, .inr ⟨i, n, hi, rfl⟩, ?_⟩
    · intro k hk
      simp only [Traits.withoutConstraints, Traits.filter, hk, Bool.not_false, if_true]
    · rw [hfound, Model.memberTarget_eq_ok.mpr ⟨n, rfl, hlift.shape⟩]
      exact .ok (.of_plain hkind rfl)
  · refine ⟨s, hl.kept hs hsite, hknown hs, rfl, fun _ => rfl, .inl rfl, ?_⟩
    cases ht : s.target? with
    | none =>
      simp only [Model.memberTarget, ht]
      exact .error
    | some i =>
      have hi : s.kind = .member i := by
        rw [Shape.target?] at ht
        split at ht
        · next hk =>
          rw [hk, Option.some.inj ht]
        · cases ht
      obtain ⟨target, htarget⟩ := hw.built.closed hs (r := i) (by
        rw [Shape.references, hi]
        exact List.mem_singleton_self i)
      obtain ⟨target', htarget', hstands⟩ := hshape htarget
      rw [Model.memberTarget_eq_ok.mpr ⟨i, hi, htarget⟩,
        Model.memberTarget_eq_ok.mpr ⟨i, hi, htarget'⟩]
      exact .ok hstands

theorem Retargets.expect (hm : Retargets m m') (hs : m.get? id = some s) :
    Agree (Retargeted m m') (m.expect id) (m'.expect id) := by
  obtain ⟨s', hs', h⟩ := hm hs
  rw [Model.expect_eq_ok.mpr hs, Model.expect_eq_ok.mpr hs']
  exact .ok h

theorem Retargets.membersOf (hm : Retargets m m') (hc : m.Closed) (hs : m.get? id = some s) :
    Agree (List.Forall₂ (Retargeted m m')) (m.membersOf s) (m'.membersOf s) := by
  refine Agree.mapM (R := fun x y => x = y ∧ x ∈ s.references) ?_ ?_
  · exact List.forall₂_same.mpr fun x hx => ⟨rfl, Shape.mem_references hx⟩
  · rintro x _ ⟨rfl, hx⟩
    obtain ⟨member, hmember⟩ := hc hs hx
    exact hm.expect hmember

end Extraction

namespace EventStream

open Extraction

variable {settings : Settings} {name : String} {operation union : Shape}

theorem memberName_retargeted (hm : Retargets m m') (hw : m.WellFormed)
    (h : Retargeted m m' s s') :
    (Context.mk m' settings).symbols.memberName s' =
      (Context.mk m settings).symbols.memberName s := by
  have hrooted : m.contains s.id.container = true :=
    hw.rooted (Model.contains_iff.mpr ⟨s, h.known⟩)
  obtain ⟨container, hc⟩ := Model.contains_iff.mp hrooted
  obtain ⟨container', hc', hcontainer⟩ := hm hc
  simp only [SymbolTable.memberName, Context.symbols, h.id, hc, hc', Option.any_some,
    hcontainer.isUnion]

theorem symbol_of_isStructure (t : SymbolTable) (h : s.isStructure = true) :
    t.symbol s = .ok (.named (SymbolTable.typeName s)
      (if s.isError then "crate::types::error" else "crate::types")) := by
  rw [SymbolTable.symbol, SymbolTable.symbolWithin, Shape.kind_of_isStructure h]

/-- Parsers are named after structures and unions, which the pass leaves alone. -/
theorem payloadParser_retargeted (h : Retargeted m m' s s')
    (haggregate : ∀ target, m.memberTarget s = .ok target →
      target.isStructure = true ∨ target.isUnion = true) :
    Agree Eq ((Protocol.json name ⟨m, settings⟩).payloadParser operation s)
      ((Protocol.json name ⟨m', settings⟩).payloadParser operation s') := by
  refine h.target.and_eq_ok.bind fun {target _} ⟨hstands, htarget⟩ => ?_
  rcases haggregate target htarget with hst | hun
  · rw [(hstands.of_isStructure hst).1]
    exact .refl _
  · rw [(hstands.of_isUnion hun).1]
    exact .refl _

/-- Of shapes that are neither structures nor unions only two scalars can be payloads. -/
theorem payloadKind_of_scalar (protocol : Protocol) (member : Shape)
    (h : target.isStructure = false ∧ target.isUnion = false) :
    Plan.payloadKind protocol operation member target =
      match target.primitive? with
      | some .blob => .ok .blob
      | some .string => .ok .text
      | _ => .error (.unexpectedShapeKind target.id "blob, string, structure or union") := by
  simp only [Shape.isStructure, Shape.isUnion] at h
  rw [Plan.payloadKind, Shape.primitive?]
  cases hk : target.kind <;> rw [hk] at h <;> first | rfl | simp at h
  next type => cases type <;> rfl

theorem payloadKind_retargeted (h : Retargeted m m' s s') (hstands : StandsFor m target target')
    (htarget : m.memberTarget s = .ok target) :
    Agree Eq (Plan.payloadKind (.json name ⟨m, settings⟩) operation s target)
      (Plan.payloadKind (.json name ⟨m', settings⟩) operation s' target') := by
  cases hstands with
  | same =>
    have hparser (haggregate : target.isStructure = true ∨ target.isUnion = true) :
        Agree Eq
          (PayloadKind.structured <$>
            (Protocol.json name ⟨m, settings⟩).payloadParser operation s)
          (PayloadKind.structured <$>
            (Protocol.json name ⟨m', settings⟩).payloadParser operation s') := by
      refine (payloadParser_retargeted h fun t ht => ?_).bind fun heq => heq ▸ .refl _
      rw [htarget] at ht
      rw [← Except.ok.inj ht]
      exact haggregate
    unfold Plan.payloadKind
    split
    · exact .refl _
    · exact .refl _
    · next hk => exact hparser (.inl (by rw [Shape.isStructure, hk]))
    · next hk => exact hparser (.inr (by rw [Shape.isUnion, hk]))
    · exact .error
  | other ha ha' hprimitive =>
    rw [payloadKind_of_scalar _ _ ha, payloadKind_of_scalar _ _ ha', hprimitive]
    split
    · exact .refl _
    · exact .refl _
    · exact .error

section

variable (hm : Retargets m m') (hw : m.WellFormed) (h : Retargeted m m' s s')
include hm hw h

theorem payloadBinding_retargeted :
    Agree Eq (Plan.payloadBinding ⟨m, settings⟩ (.json name ⟨m, settings⟩) operation s)
      (Plan.payloadBinding ⟨m', settings⟩ (.json name ⟨m', settings⟩) operation s') := by
  refine h.target.and_eq_ok.bind fun ⟨hstands, htarget⟩ => ?_
  refine (payloadKind_retargeted h hstands htarget).bind fun {kind _} heq => ?_
  cases heq
  rw [Shape.memberName, Shape.memberName, h.id, memberName_retargeted hm hw h, Shape.isRequired,
    Shape.isRequired, h.contains rfl]
  exact .refl _

theorem headerBinding_retargeted :
    Agree Eq (Plan.headerBinding ⟨m, settings⟩ s) (Plan.headerBinding ⟨m', settings⟩ s') := by
  refine h.target.bind fun hstands => ?_
  rw [hstands.primitive?, Shape.memberName, Shape.memberName, h.id,
    memberName_retargeted hm hw h, Shape.isRequired, Shape.isRequired, h.contains rfl]
  split
  · exact .refl _
  · exact .error

end

theorem any_retargeted {fields fields' : List Shape} {p : Shape → Bool}
    (hp : ∀ {s s'}, Retargeted m m' s s' → p s' = p s)
    (h : List.Forall₂ (Retargeted m m') fields fields') : fields'.any p = fields.any p := by
  induction h with
  | nil => rfl
  | cons hs hrest ih => rw [List.any_cons, List.any_cons, hp hs, ih]

theorem find?_retargeted {fields fields' : List Shape} {p : Shape → Bool}
    (hp : ∀ {s s'}, Retargeted m m' s s' → p s' = p s)
    (h : List.Forall₂ (Retargeted m m') fields fields') :
    Option.Rel (Retargeted m m') (fields.find? p) (fields'.find? p) := by
  induction h with
  | nil => exact .none
  | @cons s s' fields fields' hs hrest ih =>
    rw [List.find?_cons, List.find?_cons, hp hs]
    cases p s with
    | true => exact .some hs
    | false => exact ih

theorem filter_retargeted {fields fields' : List Shape} {p : Shape → Bool}
    (hp : ∀ {s s'}, Retargeted m m' s s' → p s' = p s)
    (h : List.Forall₂ (Retargeted m m') fields fields') :
    List.Forall₂ (Retargeted m m') (fields.filter p) (fields'.filter p) := by
  refine List.rel_filter (fun s s' h => ?_) h
  change p s = true ↔ p s' = true
  rw [hp h]

/-- The body of an event is the same over the fields of either model. -/
theorem eventBody_retargeted (hm : Retargets m m') (hw : m.WellFormed)
    (h : Retargeted m m' s s') (htarget : m.memberTarget s = .ok target)
    (hst : target.isStructure = true) {fields fields' : List Shape}
    (hfields : List.Forall₂ (Retargeted m m') fields fields') :
    Agree Eq
      (Plan.eventBody ⟨m, settings⟩ (.json name ⟨m, settings⟩) operation s target fields)
      (Plan.eventBody ⟨m', settings⟩ (.json name ⟨m', settings⟩) operation s' target fields') := by
  have hempty : fields'.isEmpty = fields.isEmpty := by
    cases hfields <;> rfl
  have hany := any_retargeted
    (p := fun f => f.traits.contains .eventPayload || f.traits.contains .eventHeader)
    (fun h => by rw [h.contains rfl, h.contains rfl]) hfields
  have hpayload := find?_retargeted (p := (·.traits.contains .eventPayload))
    (fun h => h.contains rfl) hfields
  have hheaders := filter_retargeted (p := (·.traits.contains .eventHeader))
    (fun h => h.contains rfl) hfields
  unfold Plan.eventBody
  dsimp only
  rw [hempty, hany, symbol_of_isStructure _ hst, symbol_of_isStructure _ hst]
  split
  · exact .refl _
  split
  · refine (payloadParser_retargeted h fun t ht => ?_).bind fun heq => heq ▸ .refl _
    rw [htarget] at ht
    rw [← Except.ok.inj ht]
    exact .inl hst
  · refine (Agree.optionMapM_eq hpayload (payloadBinding_retargeted hm hw)).bind
      fun {payload _} heq => ?_
    cases heq
    refine (Agree.mapM_eq hheaders (headerBinding_retargeted hm hw)).bind
      fun {headers _} heq => ?_
    cases heq
    exact .refl _

theorem branch_retargeted (hm : Retargets m m') (hw : m.WellFormed)
    (h : Retargeted m m' s s') :
    Agree Eq (Plan.branch ⟨m, settings⟩ (.json name ⟨m, settings⟩) operation s)
      (Plan.branch ⟨m', settings⟩ (.json name ⟨m', settings⟩) operation s') := by
  refine h.target.and_eq_ok.bind fun {target target'} ⟨hstands, htarget⟩ => ?_
  rw [hstands.isStructure]
  cases hst : target.isStructure with
  | false => exact .error
  | true =>
  obtain ⟨rfl, hknown⟩ := hstands.of_isStructure hst
  rw [Shape.memberName, Shape.memberName, h.id, memberName_retargeted hm hw h,
    symbol_of_isStructure _ hst, symbol_of_isStructure _ hst]
  simp only [Bool.not_true, Bool.false_eq_true, if_false]
  split
  · exact .refl _
  · refine (hm.membersOf hw.built.closed hknown).bind fun hfields => ?_
    refine (eventBody_retargeted hm hw h htarget hst hfields).bind fun {body _} heq => ?_
    cases heq
    exact .refl _

theorem build_retargeted (hm : Retargets m m') (hw : m.WellFormed) (hu : m.get? id = some union)
    (operation : Shape) (settings : Settings) (name : String) :
    Agree Eq (Plan.build ⟨m, settings⟩ (.json name ⟨m, settings⟩) operation union)
      (Plan.build ⟨m', settings⟩ (.json name ⟨m', settings⟩) operation union) := by
  unfold Plan.build
  cases hunion : union.isUnion with
  | false => exact .error
  | true =>
  rw [symbol_of_isUnion hunion, symbol_of_isUnion hunion]
  refine (hm.membersOf hw.built.closed hu).bind fun hmembers => ?_
  refine (Agree.mapM_eq hmembers (branch_retargeted hm hw)).bind fun {branches _} heq => ?_
  cases heq
  exact .refl _

theorem targetsOf_retargeted (hm : Retargets m m') {ids : List ShapeId}
    (h : ∀ x ∈ ids, ∃ s, m.get? x = some s) :
    List.Forall₂ (StandsFor m) (targetsOf m ids) (targetsOf m' ids) := by
  refine List.rel_filterMap (R := fun x y => x = y ∧ x ∈ ids) ?_
    (List.forall₂_same.mpr fun x hx => ⟨rfl, hx⟩)
  rintro x _ ⟨rfl, hx⟩
  obtain ⟨s, hs⟩ := h x hx
  obtain ⟨s', hs', hret⟩ := hm hs
  simp only [hs, hs', Option.bind_some]
  have htarget := hret.target
  generalize m.memberTarget s = x, m'.memberTarget s' = y at htarget
  cases htarget with
  | error => exact .none
  | ok hstands => exact .some hstands

/-- Of targets that stand for one another the same union is found first. -/
theorem find?_standsFor {targets targets' : List Shape} (p : Shape → Bool)
    (h : List.Forall₂ (StandsFor m) targets targets') :
    targets'.find? (fun s => s.isUnion && p s) = targets.find? (fun s => s.isUnion && p s) ∧
      ∀ {union}, targets.find? (fun s => s.isUnion && p s) = some union →
        m.get? union.id = some union := by
  induction h with
  | nil => exact ⟨rfl, fun h => by cases h⟩
  | @cons t t' targets targets' ht hrest ih =>
    rw [List.find?_cons, List.find?_cons, ht.isUnion]
    cases hu : t.isUnion with
    | false => exact ih
    | true =>
      obtain ⟨rfl, hknown⟩ := ht.of_isUnion hu
      rw [Bool.true_and]
      cases p t' with
      | false => exact ih
      | true =>
        refine ⟨rfl, fun h => ?_⟩
        rw [← Option.some.inj h]
        exact hknown

theorem unionOf?_retargeted (hm : Retargets m m') (hc : m.Closed)
    (hop : m.get? id = some operation) :
    unionOf? m' operation = unionOf? m operation ∧
      ∀ {union}, unionOf? m operation = some union → m.get? union.id = some union := by
  cases hk : operation.kind with
  | operation input output errors =>
    rw [unionOf?_eq hk, unionOf?_eq hk]
    cases output with
    | none => exact ⟨rfl, fun h => by cases h⟩
    | some output =>
      obtain ⟨s, hs⟩ := hc hop (r := output) (by
        rw [Shape.references, hk]
        simp [ShapeKind.references])
      obtain ⟨s', hs', hret⟩ := hm hs
      simp only [Option.bind_some, hs, hs', hret.memberIds]
      refine find?_standsFor _ (targetsOf_retargeted hm fun x hx => ?_)
      exact hc hs (Shape.mem_references hx)
  | _ =>
    simp only [unionOf?, hk]
    exact ⟨trivial, fun h => by cases h⟩

/-- The event stream of an operation is found and decoded over both models alike. -/
structure DecodesAlike (m m' : Model) (op : Shape) : Prop where
  operation : m'.get? op.id = some op
  union : unionOf? m' op = unionOf? m op
  known : ∀ {union}, unionOf? m op = some union →
    m.get? union.id = some union ∧ m'.get? union.id = some union
  plan : ∀ {union}, m.get? union.id = some union → ∀ settings name plan,
    Plan.build ⟨m', settings⟩ (.json name ⟨m', settings⟩) op union = .ok plan ↔
      Plan.build ⟨m, settings⟩ (.json name ⟨m, settings⟩) op union = .ok plan
  unmarshal : ∀ {union}, m.get? union.id = some union → ∀ {settings name plan plan'},
    Plan.build ⟨m, settings⟩ (.json name ⟨m, settings⟩) op union = .ok plan →
    Plan.build ⟨m', settings⟩ (.json name ⟨m', settings⟩) op union = .ok plan' →
    ∀ {Doc : Type} (decoder : Decoder Doc) (frame : Frame),
      plan'.unmarshal decoder frame = plan.unmarshal decoder frame

/-- Moving constraints off members changes nothing about the decoding of event streams. -/
theorem extractConstraints_decodesAlike (hw : m.WellFormed) (hplain : m.ConstrainsPlain)
    (h : m.extractConstraints = .ok m') (hop : m.get? id = some operation)
    (hkind : operation.isOperation = true) : DecodesAlike m m' operation := by
  obtain ⟨es, hr, rfl, -⟩ := extractConstraints_eq_ok hw.built.keyed hw.built.closed h
  have hl := hr.lifting hw
  have hm : Retargets m _ := hl.retargets hw hplain
  obtain ⟨hunion, hknown⟩ := unionOf?_retargeted hm hw.built.closed hop
  have hbuild {union} (hu : m.get? union.id = some union) (settings : Settings) (name : String) :=
    build_retargeted hm hw hu operation settings name
  refine ⟨?_, hunion, fun hu => ⟨hknown hu, ?_⟩, ?_, ?_⟩
  · refine hl.kept_of_ne (hw.built.keyed hop ▸ hop) fun t hk => ?_
    rw [Shape.isOperation, hk] at hkind
    cases hkind
  · refine hl.kept_of_ne (hknown hu) fun t hk => ?_
    have hisUnion := isUnion_of_unionOf? hu
    rw [Shape.isUnion, hk] at hisUnion
    cases hisUnion
  · intro union hu settings name plan
    exact (hbuild hu settings name).eq_ok_iff.symm
  · intro union hu settings name plan plan' hplan hplan' Doc decoder frame
    rw [(hbuild hu settings name).eq_ok_iff, hplan'] at hplan
    rw [Except.ok.inj hplan]

/-! ## A stream with constrained members -/

/-- The header and the payload of the event carry constraints. -/
def gaugesBuilder : Builder :=
  ({} : Builder)
    |>.perform (.structure "ns#Gauge" []
        [⟨"level", "smithy.api#Integer", [.eventHeader, .required, .range (some 0) none]⟩,
          ⟨"label", "smithy.api#String", [.eventPayload, .pattern "[a-z]+"]⟩])
    |>.perform (.union "ns#Gauges" [.streaming] [⟨"gauge", "ns#Gauge", []⟩])
    |>.perform (.structure "ns#WatchOutput" [] [⟨"gauges", "ns#Gauges", []⟩])
    |>.perform (.operation "ns#Watch" none (some "ns#WatchOutput") [])

def gauges : Model :=
  gaugesBuilder.model

def gaugesOperation : Shape where
  id := ⟨"ns", "Watch", none⟩
  kind := .operation none (some ⟨"ns", "WatchOutput", none⟩) []

def gaugesSettings : Settings :=
  { service := ⟨"ns", "Service", none⟩, moduleName := "gauges", codegen := { target := .server } }

/-- The pass rewrites the model, and the stream of the operation has a plan. -/
theorem gauges_checked :
    gaugesBuilder.build.1.toOption.isSome = true ∧
    (∀ s ∈ gauges.toList, ∀ x ∈ s.kind.ownedMembers,
      x = s.id.withMember (x.member.getD "") ∧ ((gauges.get? x).bind Shape.target?).isSome) ∧
    (∀ s ∈ gauges.toList, gauges.contains s.id.container = true) ∧
    gauges.ConstrainsPlain ∧
    gauges.get? gaugesOperation.id = some gaugesOperation ∧
    gauges.extractConstraints.toOption.any (· ≠ gauges) = true ∧
    (unionOf? gauges gaugesOperation).any (fun union =>
      (Plan.build ⟨gauges, gaugesSettings⟩
        (.json "aws.protocols#restJson1" ⟨gauges, gaugesSettings⟩) gaugesOperation
          union).toOption.isSome) = true := by
  decide +kernel

theorem gauges_wellFormed : gauges.WellFormed :=
  .of_toList
    (Builder.Reached.built (.perform (.perform (.perform (.perform .start _) _) _) _)
      gauges_checked.1)
    gauges_checked.2.1 gauges_checked.2.2.1

theorem extractConstraints_decodesAlike_gauges : ∃ m' union plan,
    gauges.WellFormed ∧ gauges.ConstrainsPlain ∧ gauges.extractConstraints = .ok m' ∧
    m' ≠ gauges ∧ gauges.get? gaugesOperation.id = some gaugesOperation ∧
    gaugesOperation.isOperation = true ∧ unionOf? gauges gaugesOperation = some union ∧
    Plan.build ⟨gauges, gaugesSettings⟩
      (.json "aws.protocols#restJson1" ⟨gauges, gaugesSettings⟩) gaugesOperation union = .ok plan ∧
    DecodesAlike gauges m' gaugesOperation := by
  obtain ⟨-, -, -, hplain, hop, hextract, hplan⟩ := gauges_checked
  obtain ⟨m', h, hne⟩ := exists_of_any hextract
  obtain ⟨union, hu, hsome⟩ := (Option.any_eq_true _ _).mp hplan
  obtain ⟨plan, hb⟩ := exists_of_isSome hsome
  exact ⟨m', union, plan, gauges_wellFormed, hplain, h, of_decide_eq_true hne, hop, rfl, hu, hb,
    extractConstraints_decodesAlike gauges_wellFormed hplain h hop rfl⟩

end EventStream

end CrateGen
