import CrateGen.EventStream.Plan
import CrateGen.Proofs.Outcome

/-!
What a plan is put together of. Each function of the planning has a judgement for its results, with
a constructor for every way in which it succeeds; what holds of all plans follows by cases on these.
-/

namespace CrateGen.EventStream.Plan

open Outcome

variable {ctx : Context} {protocol : Protocol} {operation member target union : Shape}
  {fields : List Shape} {plan : Plan}

inductive Kind (protocol : Protocol) (operation member : Shape) : PayloadKind → Prop where
  | blob : Kind protocol operation member .blob
  | text : Kind protocol operation member .text
  | structured {parser : RuntimeType Code}
      (hparser : protocol.payloadParser operation member = .ok parser) :
      Kind protocol operation member (.structured parser)

theorem kind_of_payloadKind {kind : PayloadKind}
    (h : payloadKind protocol operation member target = .ok kind) :
    Kind protocol operation member kind := by
  have hstructured (h : PayloadKind.structured <$> protocol.payloadParser operation member =
      .ok kind) : Kind protocol operation member kind := by
    cases hparser : protocol.payloadParser operation member with
    | error e =>
      rw [hparser] at h
      cases h
    | ok parser =>
      rw [hparser] at h
      cases h
      exact .structured hparser
  unfold payloadKind at h
  split at h
  · cases h
    exact .blob
  · cases h
    exact .text
  · exact hstructured h
  · exact hstructured h
  · cases h

theorem payloadBinding_inversion {binding : PayloadBinding}
    (h : payloadBinding ctx protocol operation member = .ok binding) :
    Kind protocol operation member binding.kind ∧
      binding = ⟨member.memberName, ctx.symbols.memberName member, !member.isRequired,
        binding.kind⟩ := by
  obtain ⟨target, -, h⟩ := bind_eq_ok.mp h
  obtain ⟨kind, hkind, h⟩ := bind_eq_ok.mp h
  cases h
  exact ⟨kind_of_payloadKind hkind, rfl⟩

theorem headerBinding_inversion {binding : HeaderBinding}
    (h : headerBinding ctx member = .ok binding) :
    binding = ⟨member.memberName, ctx.symbols.memberName member, !member.isRequired,
      binding.type⟩ := by
  obtain ⟨target, -, h⟩ := bind_eq_ok.mp h
  split at h
  · cases h
    rfl
  · cases h

inductive Body (ctx : Context) (protocol : Protocol) (operation member target : Shape)
    (fields : List Shape) : EventBody → Prop where
  | empty {symbol : Symbol Code} (hfields : fields.isEmpty = true)
      (hsymbol : ctx.symbols.symbol target = .ok symbol) :
      Body ctx protocol operation member target fields (.empty symbol)
  | payloadOnly {parser : RuntimeType Code} (hfields : fields.isEmpty = false)
      (hplain : ∀ field ∈ fields, field.traits.contains .eventPayload = false ∧
        field.traits.contains .eventHeader = false)
      (hparser : protocol.payloadParser operation member = .ok parser) :
      Body ctx protocol operation member target fields (.payloadOnly parser)
  | bound {symbol : Symbol Code} {payload : Option PayloadBinding} {headers : List HeaderBinding}
      (hbound : ∃ field ∈ fields, field.traits.contains .eventPayload = true ∨
        field.traits.contains .eventHeader = true)
      (hsymbol : ctx.symbols.symbol target = .ok symbol)
      (hpayload : Option.Rel (fun field binding => payloadBinding ctx protocol operation field =
        .ok binding) (fields.find? (·.traits.contains .eventPayload)) payload)
      (hheaders : List.Forall₂ (fun field binding => headerBinding ctx field = .ok binding)
        (fields.filter (·.traits.contains .eventHeader)) headers) :
      Body ctx protocol operation member target fields (.bound symbol.builder payload headers)

theorem body_of_eventBody {body : EventBody}
    (h : eventBody ctx protocol operation member target fields = .ok body) :
    Body ctx protocol operation member target fields body := by
  unfold eventBody at h
  dsimp only at h
  split at h
  · next hempty =>
    obtain ⟨symbol, hsymbol, h⟩ := bind_eq_ok.mp h
    cases h
    exact .empty hempty hsymbol
  next hempty =>
  have hempty := Bool.eq_false_iff.mpr hempty
  split at h
  · next hplain =>
    obtain ⟨parser, hparser, h⟩ := bind_eq_ok.mp h
    cases h
    refine .payloadOnly hempty (fun field hfield => ?_) hparser
    rw [Bool.not_eq_true', List.any_eq_false] at hplain
    simpa only [Bool.or_eq_true, not_or, Bool.not_eq_true] using hplain field hfield
  · next hbound =>
    obtain ⟨payload, hpayload, h⟩ := bind_eq_ok.mp h
    obtain ⟨headers, hheaders, h⟩ := bind_eq_ok.mp h
    obtain ⟨symbol, hsymbol, h⟩ := bind_eq_ok.mp h
    cases h
    rw [Bool.not_eq_true', Bool.not_eq_false, List.any_eq_true] at hbound
    obtain ⟨field, hfield, hmark⟩ := hbound
    exact .bound ⟨field, hfield, Bool.or_eq_true_iff.mp hmark⟩ hsymbol
      (optionMapM_eq_ok.mp hpayload) (mapM_eq_ok.mp hheaders)

inductive Branch (ctx : Context) (protocol : Protocol) (operation member : Shape) :
    EventBranch ⊕ ErrorBranch → Prop where
  | event {target : Shape} {fields : List Shape} {body : EventBody}
      (htarget : ctx.model.memberTarget member = .ok target) (hstructure : target.isStructure = true)
      (herror : target.isError = false) (hfields : ctx.model.membersOf target = .ok fields)
      (hbody : Body ctx protocol operation member target fields body) :
      Branch ctx protocol operation member
        (.inl ⟨member.memberName, ctx.symbols.memberName member, body⟩)
  | error {target : Shape} {symbol : Symbol Code} {parser : Option (RuntimeType Code)}
      (htarget : ctx.model.memberTarget member = .ok target) (hstructure : target.isStructure = true)
      (herror : target.isError = true) (hsymbol : ctx.symbols.symbol target = .ok symbol)
      (hparser : protocol.errorParser operation target = .ok parser) :
      Branch ctx protocol operation member
        (.inr ⟨member.memberName, target.id.name, symbol.builder, parser⟩)

theorem branch_of_branch {either : EventBranch ⊕ ErrorBranch}
    (h : branch ctx protocol operation member = .ok either) :
    Branch ctx protocol operation member either := by
  obtain ⟨target, htarget, h⟩ := bind_eq_ok.mp h
  cases hstructure : target.isStructure with
  | false =>
    rw [hstructure] at h
    split at h <;> cases h
  | true =>
  rw [hstructure] at h
  split at h
  · next herror =>
    obtain ⟨symbol, hsymbol, h⟩ := bind_eq_ok.mp h
    obtain ⟨parser, hparser, h⟩ := bind_eq_ok.mp h
    cases h
    exact .error htarget hstructure herror hsymbol hparser
  · next herror =>
    obtain ⟨fields, hfields, h⟩ := bind_eq_ok.mp h
    obtain ⟨body, hbody, h⟩ := bind_eq_ok.mp h
    cases h
    exact .event htarget hstructure (Bool.eq_false_iff.mpr herror) hfields
      (body_of_eventBody hbody)

/-- A plan is put together of the symbol of its union and a branch for each member. -/
structure Sources (ctx : Context) (protocol : Protocol) (operation union : Shape) (plan : Plan) :
    Prop where
  isUnion : union.isUnion = true
  symbol : ctx.symbols.symbol union = .ok plan.union
  unmarshaller : plan.unmarshaller = Name.pascalCase plan.union.name ++ "Unmarshaller"
  error : plan.error = errorSymbol ctx plan.union plan.errors
  target : plan.target = ctx.target
  runtime : plan.runtime = ctx.runtime
  branches : ∃ members branches, ctx.model.membersOf union = .ok members ∧
    List.Forall₂ (Branch ctx protocol operation) members branches ∧
    plan.events = branches.filterMap Sum.getLeft? ∧ plan.errors = branches.filterMap Sum.getRight?
  generic : plan.genericErrorParser =
    match ctx.target with
    | .client => some (protocol.genericErrorParser operation)
    | .server => none

theorem sources_of_build (h : build ctx protocol operation union = .ok plan) :
    plan.Sources ctx protocol operation union := by
  unfold build at h
  cases hunion : union.isUnion with
  | false =>
    rw [hunion] at h
    cases h
  | true =>
  rw [hunion] at h
  obtain ⟨symbol, hsymbol, h⟩ := bind_eq_ok.mp h
  obtain ⟨members, hmembers, h⟩ := bind_eq_ok.mp h
  obtain ⟨branches, hbranches, h⟩ := bind_eq_ok.mp h
  cases h
  have hbranches := (mapM_eq_ok.mp hbranches).imp fun _ _ => branch_of_branch
  exact ⟨hunion, hsymbol, rfl, rfl, rfl, rfl, ⟨members, branches, hmembers, hbranches, rfl, rfl⟩,
    rfl⟩

namespace Sources

variable (h : plan.Sources ctx protocol operation union)
include h

theorem event {branch : EventBranch} (hb : branch ∈ plan.events) :
    ∃ members member, ctx.model.membersOf union = .ok members ∧ member ∈ members ∧
      Branch ctx protocol operation member (.inl branch) := by
  obtain ⟨members, branches, hmembers, hbranches, hevents, -⟩ := h.branches
  rw [hevents] at hb
  obtain ⟨member, hmember, hbranch⟩ := exists_of_mem_lefts hbranches hb
  exact ⟨members, member, hmembers, hmember, hbranch⟩

theorem errorBranch {branch : ErrorBranch} (hb : branch ∈ plan.errors) :
    ∃ members member, ctx.model.membersOf union = .ok members ∧ member ∈ members ∧
      Branch ctx protocol operation member (.inr branch) := by
  obtain ⟨members, branches, hmembers, hbranches, -, herrors⟩ := h.branches
  rw [herrors] at hb
  obtain ⟨member, hmember, hbranch⟩ := exists_of_mem_rights hbranches hb
  exact ⟨members, member, hmembers, hmember, hbranch⟩

end Sources

end CrateGen.EventStream.Plan
