import CrateGen.EventStream.Unmarshaller
import CrateGen.Proofs.Code.Progress
import CrateGen.Proofs.EventStream.Planning

namespace CrateGen

open Outcome

variable {p : Permit}

theorem RuntimeType.permitted_of_none {t : RuntimeType Code} (h : t.dependency = none) :
    t.Permitted p := by
  intro d hd
  rw [h] at hd
  cases hd

theorem RuntimeType.permitted_of_cargo {t : RuntimeType Code} {package : CargoDependency}
    (h : t.dependency = some (.cargo package)) : t.Permitted p := by
  intro d hd
  rw [h] at hd
  cases hd
  trivial

theorem RuntimeType.Permitted.mono {p q : Permit} (h : p.Within q) {t : RuntimeType Code}
    (ht : t.Permitted p) : t.Permitted q :=
  fun d hd => (ht d hd).mono h

namespace Symbol

theorem permitted_named (name ns : String) : (named name ns : Symbol Code).Permitted p :=
  fun _ hd => (List.not_mem_nil hd).elim

theorem permitted_ofRuntimeType {t : RuntimeType Code} (h : t.Permitted p) :
    (ofRuntimeType t).Permitted p := by
  intro d hd
  have hd : d ∈ t.dependency.toList ++ [] := hd
  rw [List.append_nil, Option.mem_toList] at hd
  exact h d hd

theorem permitted_generic (ns name : String) {arguments : List (Symbol Code)}
    (h : ∀ s ∈ arguments, s.Permitted p) : (generic ns name arguments).Permitted p := by
  intro d hd
  rcases mem_allDependencies.mp hd with hd | ⟨s, hs, hd⟩
  · exact (List.not_mem_nil hd).elim
  · exact h s hs d hd

theorem permitted_option {inner : Symbol Code} (h : inner.Permitted p) :
    (option inner).Permitted p :=
  permitted_generic "::std::option" "Option" fun _ hs => List.mem_singleton.mp hs ▸ h

theorem permitted_vec {inner : Symbol Code} (h : inner.Permitted p) : (vec inner).Permitted p :=
  permitted_generic _ _ fun _ hs => List.mem_singleton.mp hs ▸ h

theorem permitted_hashMap {key value : Symbol Code} (hkey : key.Permitted p)
    (hvalue : value.Permitted p) : (hashMap key value).Permitted p := by
  refine permitted_generic _ _ fun s hs => ?_
  rcases List.mem_cons.mp hs with rfl | hs
  · exact hkey
  · exact List.mem_singleton.mp hs ▸ hvalue

end Symbol

namespace SymbolTable

variable {t : SymbolTable} {s : Shape} {symbol : Symbol Code}

theorem primitiveSymbol_permitted (t : SymbolTable) (s : Shape) (type : Primitive) :
    (t.primitiveSymbol s type).Permitted p := by
  unfold primitiveSymbol
  split
  · exact Symbol.permitted_named _ _
  · cases type with
    | blob => exact Symbol.permitted_ofRuntimeType (RuntimeType.permitted_of_cargo rfl)
    | timestamp => exact Symbol.permitted_ofRuntimeType (RuntimeType.permitted_of_cargo rfl)
    | _ => exact Symbol.permitted_named _ _

theorem memberSymbol_permitted {symbolOf : Shape → Except Error (Symbol Code)}
    (hof : ∀ {s symbol}, symbolOf s = .ok symbol → symbol.Permitted p)
    (h : t.memberSymbol symbolOf s = .ok symbol) : symbol.Permitted p := by
  obtain ⟨target, -, h⟩ := bind_eq_ok.mp h
  obtain ⟨inner, hinner, h⟩ := bind_eq_ok.mp h
  obtain ⟨container, -, h⟩ := bind_eq_ok.mp h
  cases h
  split
  · exact Symbol.permitted_option (hof hinner)
  · exact hof hinner

theorem symbolWithin_permitted {depth : Nat} (h : t.symbolWithin depth s = .ok symbol) :
    symbol.Permitted p := by
  induction depth generalizing s symbol with
  | zero => cases h
  | succ depth ih =>
    rw [symbolWithin] at h
    split at h
    · cases h
      exact Symbol.permitted_named _ _
    · cases h
      exact Symbol.permitted_named _ _
    · cases h
      exact Symbol.permitted_named _ _
    · obtain ⟨item, -, h⟩ := bind_eq_ok.mp h
      obtain ⟨inner, hinner, h⟩ := bind_eq_ok.mp h
      cases h
      exact Symbol.permitted_vec (memberSymbol_permitted ih hinner)
    · obtain ⟨keyShape, -, h⟩ := bind_eq_ok.mp h
      obtain ⟨key, hkey, h⟩ := bind_eq_ok.mp h
      obtain ⟨valueShape, -, h⟩ := bind_eq_ok.mp h
      obtain ⟨value, hvalue, h⟩ := bind_eq_ok.mp h
      cases h
      exact Symbol.permitted_hashMap (memberSymbol_permitted ih hkey)
        (memberSymbol_permitted ih hvalue)
    · cases h
      exact t.primitiveSymbol_permitted s _
    · cases h
      exact Symbol.permitted_named _ _
    · cases h
      exact Symbol.permitted_named _ _
    · exact memberSymbol_permitted ih h

/-- The types of shapes refer to packages only. -/
theorem symbol_permitted (h : t.symbol s = .ok symbol) : symbol.Permitted p :=
  symbolWithin_permitted h

end SymbolTable

/-- The parsers of a protocol do not go beyond what is permitted. -/
structure Protocol.Keeps (p : Permit) (protocol : Protocol) : Prop where
  payload : ∀ {operation member t},
    protocol.payloadParser operation member = .ok t → t.Permitted p
  error : ∀ {operation s t}, protocol.errorParser operation s = .ok (some t) → t.Permitted p
  generic : ∀ operation, (protocol.genericErrorParser operation).Permitted p

theorem Protocol.Keeps.mono {p q : Permit} {protocol : Protocol} (hp : protocol.Keeps p)
    (h : p.Within q) : protocol.Keeps q where
  payload hread := (hp.payload hread).mono h
  error hread := (hp.error hread).mono h
  generic operation := (hp.generic operation).mono h

theorem Protocol.json_keeps (p : Permit) (name : String) (ctx : Context) :
    (Protocol.json name ctx).Keeps p where
  payload h := by
    obtain ⟨target, -, h⟩ := bind_eq_ok.mp h
    cases h
    exact RuntimeType.permitted_of_none rfl
  error h := by
    unfold Protocol.json at h
    dsimp only at h
    split at h
    · cases h
    split at h
    · cases h
    · cases h
      exact RuntimeType.permitted_of_none rfl
  generic _ := RuntimeType.permitted_of_none rfl

namespace EventStream

variable {ctx : Context} {protocol : Protocol} {operation union : Shape} {plan : Plan}

def PayloadKind.Permitted (p : Permit) : PayloadKind → Prop
  | .structured parser => parser.Permitted p
  | .blob | .text => True

def EventBody.Permitted (p : Permit) : EventBody → Prop
  | .empty type => type.Permitted p
  | .payloadOnly parser => parser.Permitted p
  | .bound builder payload _ =>
    builder.Permitted p ∧ ∀ binding ∈ payload, binding.kind.Permitted p

structure ErrorBranch.Permitted (p : Permit) (branch : ErrorBranch) : Prop where
  builder : branch.builder.Permitted p
  parser : ∀ t ∈ branch.parser, t.Permitted p

/-- The types and parsers of a plan do not go beyond what is permitted. -/
structure Plan.Permitted (p : Permit) (plan : Plan) : Prop where
  union : plan.union.Permitted p
  error : plan.error.Permitted p
  events : ∀ branch ∈ plan.events, branch.body.Permitted p
  errors : ∀ branch ∈ plan.errors, branch.Permitted p
  generic : ∀ t ∈ plan.genericErrorParser, t.Permitted p

section Build

variable (hp : protocol.Keeps p)
include hp

theorem payloadBinding_permitted {member : Shape} {binding : PayloadBinding}
    (h : Plan.payloadBinding ctx protocol operation member = .ok binding) :
    binding.kind.Permitted p := by
  obtain ⟨hkind, -⟩ := Plan.payloadBinding_inversion h
  generalize binding.kind = kind at hkind
  cases hkind with
  | blob => trivial
  | text => trivial
  | structured hparser => exact hp.payload hparser

theorem eventBody_permitted {member target : Shape} {fields : List Shape} {body : EventBody}
    (h : Plan.Body ctx protocol operation member target fields body) : body.Permitted p := by
  cases h with
  | empty _ hsymbol => exact SymbolTable.symbol_permitted hsymbol
  | payloadOnly _ _ hparser => exact hp.payload hparser
  | bound _ _ hpayload _ =>
    refine ⟨Symbol.permitted_named _ _, fun binding hb => ?_⟩
    obtain ⟨field, -, hbinding⟩ := exists_of_rel hpayload hb
    exact payloadBinding_permitted hp hbinding

theorem Plan.permitted_of_build (h : Plan.build ctx protocol operation union = .ok plan) :
    plan.Permitted p := by
  have hsources := sources_of_build h
  refine ⟨SymbolTable.symbol_permitted hsources.symbol, ?_, fun branch hb => ?_,
    fun branch hb => ?_, fun t ht => ?_⟩
  · rw [hsources.error, Plan.errorSymbol]
    split
    · exact Symbol.permitted_ofRuntimeType (RuntimeType.permitted_of_cargo rfl)
    · exact Symbol.permitted_named _ _
  · obtain ⟨members, member, -, -, hbranch⟩ := hsources.event hb
    cases hbranch with
    | event _ _ _ _ hbody => exact eventBody_permitted hp hbody
  · obtain ⟨members, member, -, -, hbranch⟩ := hsources.errorBranch hb
    cases hbranch with
    | error _ _ _ _ hparser =>
      refine ⟨Symbol.permitted_named _ _, fun t ht => ?_⟩
      cases ht
      exact hp.error hparser
  · rw [hsources.generic] at ht
    split at ht
    · cases ht
      exact hp.generic operation
    · cases ht

end Build

section Write

theorem parsePayload_permitted {parser : RuntimeType Code} (h : parser.Permitted p)
    (subject : String) : (parsePayload parser subject).Permitted p :=
  ⟨h, trivial⟩

theorem setField_permitted {value : Code} (h : value.Permitted p) (field : String)
    (isOptional : Bool) : (setField field isOptional value).Permitted p := by
  unfold setField
  cases isOptional <;> exact h

theorem writePayload_permitted {binding : PayloadBinding} (h : binding.kind.Permitted p) :
    (writePayload binding).Permitted p := by
  have hvalue : (payloadValue binding).Permitted p := by
    unfold payloadValue
    cases hkind : binding.kind with
    | blob => trivial
    | text => trivial
    | structured parser =>
      rw [hkind] at h
      exact parsePayload_permitted h _
  refine ⟨?_, setField_permitted hvalue _ _⟩
  split <;> trivial

theorem writeHeaders_permitted (bindings : List HeaderBinding) :
    (writeHeaders bindings).Permitted p := by
  refine ⟨⟨Code.permitted_join fun c hc => ?_, trivial⟩, trivial⟩
  obtain ⟨binding, -, rfl⟩ := List.mem_map.mp hc
  have hvalue : Code.Permitted p
      (.template (hole "expect_fns" ++ "::" ++ binding.type.reader ++ "(header)?") []) :=
    trivial
  exact setField_permitted hvalue binding.field binding.isOptional

theorem writeEvent_permitted {branch : EventBranch} (h : branch.body.Permitted p) :
    (writeEvent branch).Permitted p := by
  change (writeBody branch.variant branch.body).Permitted p
  cases hbody : branch.body with
  | empty type =>
    rw [hbody] at h
    exact ⟨h, trivial⟩
  | payloadOnly parser =>
    rw [hbody] at h
    exact ⟨parsePayload_permitted h branch.variant, trivial⟩
  | bound builder payload headers =>
    rw [hbody] at h
    obtain ⟨hbuilder, hpayload⟩ := h
    have hheaders : Code.Permitted p
        (if headers.isEmpty then .nothing else writeHeaders headers) := by
      split
      · trivial
      · exact writeHeaders_permitted headers
    refine ⟨⟨⟨⟨hbuilder, trivial⟩, ?_⟩, hheaders⟩, trivial⟩
    cases payload with
    | none => trivial
    | some binding => exact writePayload_permitted (hpayload binding rfl)

theorem writeUnknownEvent_permitted (target : Target) :
    (writeUnknownEvent target).Permitted p := by
  cases target <;> trivial

namespace Plan

theorem writeModeledError_permitted (plan : Plan) {branch : ErrorBranch}
    (h : branch.Permitted p) : (plan.writeModeledError branch).Permitted p := by
  have hbuilder : Code.allPermitted p [symbolArg "builder" branch.builder] := ⟨h.builder, trivial⟩
  have hparser {parser : RuntimeType Code} (ht : branch.parser = some parser) :
      Code.allPermitted p [typeArg "parser" parser] := ⟨h.parser parser ht, trivial⟩
  unfold writeModeledError
  dsimp only
  split
  · trivial
  · next ht => exact ⟨hbuilder, hparser ht⟩
  · refine ⟨⟨hbuilder, ?_⟩, trivial⟩
    split
    · next ht => exact hparser ht
    · trivial

variable (h : plan.Permitted p)
include h

theorem writeErrors_permitted : plan.writeErrors.Permitted p := by
  have hbranches : plan.writeErrorBranches.Permitted p := by
    unfold writeErrorBranches
    split
    · trivial
    · next branch herrors =>
      exact plan.writeModeledError_permitted
        (h.errors branch (herrors ▸ List.mem_singleton_self branch))
    · refine ⟨Code.permitted_join fun c hc => ?_, trivial⟩
      obtain ⟨branch, hmem, rfl⟩ := List.mem_map.mp hc
      exact plan.writeModeledError_permitted (h.errors branch hmem)
  refine ⟨⟨?_, hbranches⟩, ?_⟩
  · cases hgeneric : plan.genericErrorParser with
    | none => trivial
    | some parser => exact ⟨h.generic parser hgeneric, trivial⟩
  · cases plan.target <;> trivial

theorem writeDispatch_permitted : plan.writeDispatch.Permitted p := by
  refine ⟨trivial, ⟨⟨⟨Code.permitted_join fun c hc => ?_, writeUnknownEvent_permitted _⟩,
    writeErrors_permitted h⟩, trivial⟩⟩
  obtain ⟨branch, hmem, rfl⟩ := List.mem_map.mp hc
  exact writeEvent_permitted (h.events branch hmem)

/-- The code of an unmarshaller does not go beyond what its plan may refer to. -/
theorem writeUnmarshaller_permitted : plan.writeUnmarshaller.Permitted p := by
  have hscope : Code.allPermitted p plan.scope := by
    have hcargo (t : RuntimeType Code) (package : CargoDependency)
        (ht : t.dependency = some (.cargo package)) : t.Permitted p :=
      RuntimeType.permitted_of_cargo ht
    exact ⟨hcargo _ _ rfl, hcargo _ _ rfl, hcargo _ _ rfl, hcargo _ _ rfl, h.error, h.union,
      hcargo _ _ rfl, hcargo _ _ rfl, hcargo _ _ rfl, trivial⟩
  exact ⟨trivial, hscope, trivial, ⟨trivial, trivial⟩, trivial, writeDispatch_permitted h⟩

end Plan

end Write

end EventStream

end CrateGen
