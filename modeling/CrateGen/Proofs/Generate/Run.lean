import CrateGen.Generate.Service
import CrateGen.Proofs.Code.Finalize
import CrateGen.Proofs.Code.Provenance
import CrateGen.Proofs.Model.Lookup
import CrateGen.Proofs.Outcome

namespace CrateGen

open CrateGen.Action
open EventStream (Plan unionOf?)

/-- An operation has an event stream with the plan. -/
def Streams (ctx : Context) (protocol : Protocol) (operation : Shape) (plan : Plan) : Prop :=
  ∃ union, unionOf? ctx.model operation = some union ∧
    Plan.build ctx protocol operation union = .ok plan

namespace Generator

variable {σ α : Type} {s s' : σ} {c c' : Crate} {g : Generator σ} {m : Model} {fuel : Nat}

theorem outcome_ofExcept_eq_ok {x : Except Error α} {a : α} :
    outcome (ofExcept x : Run σ α) s = (.ok a, s') ↔ x = .ok a ∧ s = s' := by
  cases x with
  | error e =>
    constructor
    · intro h
      cases h
    · rintro ⟨h, -⟩
      cases h
  | ok b =>
    constructor
    · intro h
      cases h
      exact ⟨rfl, rfl⟩
    · rintro ⟨h, rfl⟩
      cases h
      rfl

theorem outcome_ofHook (hook : Hook σ α) (s : σ) :
    outcome (ofHook hook) s =
      ((hook.run.run s).1.mapError .failed, (hook.run.run s).2) :=
  rfl

theorem outcome_ofHook_eq_ok {hook : Hook σ α} {a : α} :
    outcome (ofHook hook) s = (.ok a, s') ↔ hook.run.run s = (.ok a, s') := by
  rw [outcome_ofHook]
  generalize hook.run.run s = result
  obtain ⟨r, s₁⟩ := result
  cases r with
  | error e =>
    constructor
    · intro h
      cases h
    · intro h
      cases h
  | ok b =>
    constructor
    · intro h
      cases h
      rfl
    · intro h
      cases h
      rfl

theorem outcome_onCrate (c : Crate) (action : CrateM Unit) (s : σ) :
    outcome (onCrate c action : Run σ Crate) s =
      ((outcome action c).1.map fun _ => (outcome action c).2, s) := by
  change outcome (match outcome action c with
    | (.ok (), c) => pure c
    | (.error halt, _) => throw halt : Run σ Crate) s = _
  obtain ⟨r, c₁⟩ := outcome action c
  cases r <;> rfl

theorem outcome_onCrate_eq_ok {action : CrateM Unit} :
    outcome (onCrate c action : Run σ Crate) s = (.ok c', s') ↔
      outcome action c = (.ok (), c') ∧ s = s' := by
  rw [outcome_onCrate]
  generalize outcome action c = result
  obtain ⟨r, c₁⟩ := result
  cases r with
  | error e =>
    constructor
    · intro h
      cases h
    · rintro ⟨h, -⟩
      cases h
  | ok u =>
    constructor
    · intro h
      cases h
      exact ⟨rfl, rfl⟩
    · rintro ⟨h, rfl⟩
      cases h
      rfl

/-- What a run of generation starts from: the transformed model, the protocol of the service, and
its operations. -/
structure Setup (g : Generator σ) (m : Model) (s : σ) (ctx : Context) (protocol : Protocol)
    (operations : List Shape) : Prop where
  model : ∃ s', (g.decorator.apply m g.settings.service).run.run s = (.ok ctx.model, s')
  settings : ctx.settings = g.settings
  protocol : ∃ (s₁ s₂ : σ) (table : ProtocolTable) (service : Shape) (select : Context → Protocol),
    (g.decorator.protocols g.settings.service .default).run.run s₁ = (.ok table, s₂) ∧
    ctx.model.get? g.settings.service = some service ∧ table.select service = .ok select ∧
    protocol = select ctx
  operations : ctx.model.serviceOperations g.settings.service = .ok operations

/-- The code of an operation's module, with its customizations and the unmarshaller of its event
stream. -/
structure WritesOperation (d : Decorator σ) (ctx : Context) (protocol : Protocol)
    (operation : Shape) (write : Module × Code) : Prop where
  module : write.1 = Operation.module operation
  code : ∃ (symbol : Symbol Code) (customizations : List OperationCustomization)
    (unmarshaller : Option (RuntimeType Code)) (s s' : σ),
    ctx.symbols.symbol operation = .ok symbol ∧
    (d.operationCustomizations ctx operation []).run.run s = (.ok customizations, s') ∧
    unmarshaller? ctx protocol operation = .ok unmarshaller ∧
    write.2 = Operation.write ctx.model operation symbol.name customizations unmarshaller

theorem renderOperations_ok {d : Decorator σ} {ctx : Context} {protocol : Protocol}
    {operations : List Shape}
    (h : outcome (renderOperations fuel d ctx protocol c operations) s = (.ok c', s')) :
    ∃ writes, List.Forall₂ (WritesOperation d ctx protocol) operations writes ∧
      c.Writings writes c' := by
  induction operations generalizing c s with
  | nil =>
    cases h
    exact ⟨[], .nil, .nil _⟩
  | cons operation operations ih =>
    obtain ⟨customizations, s₁, hcustom, h⟩ := outcome_bind_eq_ok.mp h
    obtain ⟨unmarshaller, s₂, hunmarshaller, h⟩ := outcome_bind_eq_ok.mp h
    obtain ⟨c₁, s₃, hrender, h⟩ := outcome_bind_eq_ok.mp h
    obtain ⟨hunmarshaller, hs₂⟩ := outcome_ofExcept_eq_ok.mp hunmarshaller
    obtain ⟨hrender, hs₃⟩ := outcome_onCrate_eq_ok.mp hrender
    obtain ⟨symbol, c₂, hsymbol, hwrite⟩ := outcome_bind_eq_ok.mp hrender
    obtain ⟨hknown, rfl⟩ : ctx.symbols.symbol operation = .ok symbol ∧ c = c₂ := by
      cases hs : ctx.symbols.symbol operation with
      | error e =>
        rw [hs] at hsymbol
        cases hsymbol
      | ok b =>
        rw [hs] at hsymbol
        cases hsymbol
        exact ⟨rfl, rfl⟩
    obtain ⟨writes, hwrites, hrest⟩ := ih h
    exact ⟨_ :: writes, .cons ⟨rfl, symbol, customizations, unmarshaller, s, s₁, hknown,
      outcome_ofHook_eq_ok.mp hcustom, hunmarshaller, rfl⟩ hwrites, .cons hwrite hrest⟩

/-- The modules that are the same for every service, with what customizations add to them. -/
structure WritesCommon (d : Decorator σ) (ctx : Context) (writes : List (Module × Code)) :
    Prop where
  eq : ∃ (symbols : List (Symbol Code)) (config : List ConfigCustomization)
    (endpoint : List EndpointCustomization) (s₁ s₂ s₃ s₄ : σ),
    (d.configCustomizations ctx []).run.run s₁ = (.ok config, s₂) ∧
    (d.endpointCustomizations ctx []).run.run s₃ = (.ok endpoint, s₄) ∧
    writes = [(.root, writeRoot ctx symbols), (Config.module, Config.write config),
      (Endpoint.module, Endpoint.write endpoint)]

theorem WritesCommon.rooted {d : Decorator σ} {writes : List (Module × Code)}
    (h : WritesCommon d ctx writes) {write : Module × Code} (hmem : write ∈ writes) :
    write.1.Rooted := by
  obtain ⟨_, _, _, _, _, _, _, -, -, rfl⟩ := h.eq
  rcases List.mem_cons.mp hmem with rfl | hmem
  · exact Module.rooted_root
  rcases List.mem_cons.mp hmem with rfl | hmem
  · exact rfl
  · cases List.mem_singleton.mp hmem
    exact rfl

/-- The crate of a run before it is finalized. -/
def modules (g : Generator σ) (fuel : Nat) (m : Model) : Run σ Crate := do
  let d := g.decorator
  let m ← ofHook (d.apply m g.settings.service)
  let ctx ← ofExcept (Context.ofModel m g.settings)
  let table ← ofHook (d.protocols g.settings.service .default)
  let service ← ofExcept (m.expect g.settings.service)
  let protocol ← ofExcept (table.select service)
  let operations ← ofExcept (m.serviceOperations g.settings.service)
  let symbols ← ofExcept (operations.mapM ctx.symbols.symbol)
  let c ← onCrate (Crate.ofSettings g.settings)
    (Crate.write fuel .root (writeRoot ctx symbols))
  let config ← ofHook (d.configCustomizations ctx [])
  let c ← onCrate c (Crate.write fuel Config.module (Config.write config))
  let endpoint ← ofHook (d.endpointCustomizations ctx [])
  let c ← onCrate c (Crate.write fuel Endpoint.module (Endpoint.write endpoint))
  renderOperations fuel d ctx (protocol ctx) c operations

theorem generate_eq (g : Generator σ) (fuel : Nat) (m : Model) :
    g.generate fuel m = g.modules fuel m >>= fun c => onCrate c (Crate.finalize fuel) := by
  simp only [generate, modules, bind_assoc]

theorem generate_eq_ok :
    outcome (g.generate fuel m) s = (.ok c, s') ↔
      ∃ written, outcome (g.modules fuel m) s = (.ok written, s') ∧
        outcome (Crate.finalize fuel) written = (.ok (), c) := by
  rw [generate_eq, outcome_bind_eq_ok]
  constructor
  · rintro ⟨written, s₁, hmodules, h⟩
    obtain ⟨hfinalize, rfl⟩ := outcome_onCrate_eq_ok.mp h
    exact ⟨written, hmodules, hfinalize⟩
  · rintro ⟨written, hmodules, hfinalize⟩
    exact ⟨written, s', hmodules, outcome_onCrate_eq_ok.mpr ⟨hfinalize, rfl⟩⟩

/-! More fuel changes no run that is not exhausted. -/

theorem onCrate_below {x y : CrateM Unit} (c : Crate) (h : Below x y) :
    Below (onCrate c x : Run σ Crate) (onCrate c y) := by
  intro s hs
  rw [outcome_onCrate] at hs
  have hx := h c fun he => hs (by rw [he]; rfl)
  rw [outcome_onCrate, outcome_onCrate, hx]

section

variable {fuel' : Nat} (hle : fuel ≤ fuel')
include hle

theorem renderOperations_below (d : Decorator σ) (ctx : Context) (protocol : Protocol)
    (c : Crate) (operations : List Shape) :
    Below (renderOperations fuel d ctx protocol c operations)
      (renderOperations fuel' d ctx protocol c operations) := by
  induction operations generalizing c with
  | nil => exact .refl _
  | cons operation operations ih =>
    refine (Below.refl _).bind fun customizations => (Below.refl _).bind fun unmarshaller => ?_
    refine (onCrate_below c ?_).bind fun c' => ih c'
    exact (Below.refl _).bind fun symbol => Crate.write_below _ _ hle

theorem modules_below (g : Generator σ) (m : Model) :
    Below (g.modules fuel m) (g.modules fuel' m) := by
  have hwrite (c : Crate) (module : Module) (code : Code) :
      Below (onCrate c (Crate.write fuel module code) : Run σ Crate)
        (onCrate c (Crate.write fuel' module code)) :=
    onCrate_below c (Crate.write_below module code hle)
  refine (Below.refl _).bind fun model => (Below.refl _).bind fun ctx => ?_
  refine (Below.refl _).bind fun table => (Below.refl _).bind fun service => ?_
  refine (Below.refl _).bind fun protocol => (Below.refl _).bind fun operations => ?_
  refine (Below.refl _).bind fun symbols => (hwrite _ _ _).bind fun c₁ => ?_
  refine (Below.refl _).bind fun config => (hwrite _ _ _).bind fun c₂ => ?_
  refine (Below.refl _).bind fun endpoint => (hwrite _ _ _).bind fun c₃ => ?_
  exact renderOperations_below hle _ _ _ _ _

theorem generate_below (g : Generator σ) (m : Model) :
    Below (g.generate fuel m) (g.generate fuel' m) := by
  rw [generate_eq, generate_eq]
  exact (modules_below hle g m).bind fun c => onCrate_below c (Crate.finalize_below hle)

end

/-- The common modules are written and then those of the operations. -/
theorem modules_ok (h : outcome (g.modules fuel m) s = (.ok c, s')) :
    ∃ ctx protocol operations common writes,
      g.Setup m s ctx protocol operations ∧ WritesCommon g.decorator ctx common ∧
      List.Forall₂ (WritesOperation g.decorator ctx protocol) operations writes ∧
      (Crate.ofSettings g.settings).Writings (common ++ writes) c := by
  obtain ⟨model, s₁, hmodel, h⟩ := outcome_bind_eq_ok.mp h
  obtain ⟨ctx, s₂, hctx, h⟩ := outcome_bind_eq_ok.mp h
  obtain ⟨table, s₃, htable, h⟩ := outcome_bind_eq_ok.mp h
  obtain ⟨service, s₄, hservice, h⟩ := outcome_bind_eq_ok.mp h
  obtain ⟨select, s₅, hselect, h⟩ := outcome_bind_eq_ok.mp h
  obtain ⟨operations, s₆, hoperations, h⟩ := outcome_bind_eq_ok.mp h
  obtain ⟨symbols, s₇, hsymbols, h⟩ := outcome_bind_eq_ok.mp h
  obtain ⟨c₁, s₈, hroot, h⟩ := outcome_bind_eq_ok.mp h
  obtain ⟨config, s₉, hconfig, h⟩ := outcome_bind_eq_ok.mp h
  obtain ⟨c₂, s₁₀, hwriteConfig, h⟩ := outcome_bind_eq_ok.mp h
  obtain ⟨endpoint, s₁₁, hendpoint, h⟩ := outcome_bind_eq_ok.mp h
  obtain ⟨c₃, s₁₂, hwriteEndpoint, hrender⟩ := outcome_bind_eq_ok.mp h
  obtain ⟨hctx, -⟩ := outcome_ofExcept_eq_ok.mp hctx
  obtain ⟨_, -, hctx⟩ := Outcome.bind_eq_ok.mp hctx
  cases hctx
  obtain ⟨hservice, -⟩ := outcome_ofExcept_eq_ok.mp hservice
  obtain ⟨hselect, -⟩ := outcome_ofExcept_eq_ok.mp hselect
  obtain ⟨hoperations, -⟩ := outcome_ofExcept_eq_ok.mp hoperations
  obtain ⟨hroot, -⟩ := outcome_onCrate_eq_ok.mp hroot
  obtain ⟨hwriteConfig, -⟩ := outcome_onCrate_eq_ok.mp hwriteConfig
  obtain ⟨hwriteEndpoint, -⟩ := outcome_onCrate_eq_ok.mp hwriteEndpoint
  obtain ⟨writes, hwrites, hwritings⟩ := renderOperations_ok hrender
  refine ⟨⟨model, g.settings⟩, _, operations, _, writes, ⟨⟨s₁, outcome_ofHook_eq_ok.mp hmodel⟩,
    rfl, ⟨_, _, table, service, select, outcome_ofHook_eq_ok.mp htable,
      Model.expect_eq_ok.mp hservice, hselect, rfl⟩, hoperations⟩,
    ⟨symbols, config, endpoint, _, _, _, _, outcome_ofHook_eq_ok.mp hconfig,
      outcome_ofHook_eq_ok.mp hendpoint, rfl⟩, hwrites, ?_⟩
  exact .cons hroot (.cons hwriteConfig (.cons hwriteEndpoint hwritings))

end Generator

end CrateGen
