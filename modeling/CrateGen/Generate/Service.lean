import CrateGen.EventStream.Unmarshaller
import CrateGen.Generate.Endpoint
import CrateGen.Generate.Operation

namespace CrateGen

/-- The generation of a crate for one service. -/
structure Generator (σ : Type) where
  settings : Settings
  decorators : List (Decorator σ)

namespace Generator

variable {σ : Type}

/-- A generator with the decorators in order. Servers extract constraints in addition. -/
def ofSettings (settings : Settings) (decorators : List (Decorator σ)) : Generator σ where
  settings
  decorators := Decorator.sort decorators <|
    match settings.codegen.target with
    | .server => [Decorator.extraction]
    | .client => []

def decorator (g : Generator σ) : Decorator σ :=
  Decorator.chain g.decorators

/-- The documentation of the crate: that of the settings, of the service, or a standard one. -/
def description (ctx : Context) : String :=
  (ctx.settings.moduleDescription.or
    ((ctx.model.get? ctx.service).bind Shape.documentation?)).getD
    ("Generated crate for `" ++ ctx.service.name ++ "`.")

/-- The documentation of the crate with a list of its operations. -/
def writeRoot (ctx : Context) (operations : List (Symbol Code)) : Code :=
  let listing := operations.map fun s => "- [`" ++ s.name ++ "`](" ++ s.type ++ ")"
  .preamble <|
    .containerDocs (description ctx) ++
    (if listing.isEmpty then .nothing
      else
        .containerDocs "" ++ .containerDocs "# Operations" ++ .containerDocs "" ++
          .containerDocs (Text.unlines listing)) ++
    .line "#![allow(clippy::new_without_default)]"

/-- A run of generation, which stops early with its state kept. -/
abbrev Run (σ : Type) := ExceptT Halt (StateM σ)

def ofHook (hook : Hook σ α) : Run σ α :=
  hook.adapt .failed

def ofExcept (result : Except Error α) : Run σ α :=
  match result with
  | .ok a => pure a
  | .error e => throw (.failed e)

def onCrate (c : Crate) (action : CrateM Unit) : Run σ Crate :=
  match action.run.run c with
  | (.ok (), c) => pure c
  | (.error halt, _) => throw halt

/-- The unmarshaller of an operation with an event stream. -/
def unmarshaller? (ctx : Context) (protocol : Protocol) (operation : Shape) :
    Except Error (Option (RuntimeType Code)) :=
  match EventStream.unionOf? ctx.model operation with
  | none => .ok none
  | some union => do
    let plan ← EventStream.Plan.build ctx protocol operation union
    return some plan.render

def renderOperations (fuel : Nat) (d : Decorator σ) (ctx : Context) (protocol : Protocol)
    (c : Crate) : List Shape → Run σ Crate
  | [] => pure c
  | operation :: rest => do
    let customizations ← ofHook (d.operationCustomizations ctx operation [])
    let unmarshaller ← ofExcept (unmarshaller? ctx protocol operation)
    let c ← onCrate c (Operation.render fuel ctx operation customizations unmarshaller)
    renderOperations fuel d ctx protocol c rest

/-- Transforms a model and generates the crate of its service. `fuel` bounds how deeply fragments
are spliced and how often inline items lead to others. -/
def generate (g : Generator σ) (fuel : Nat) (m : Model) : Run σ Crate := do
  let d := g.decorator
  let m ← ofHook (d.apply m g.settings.service)
  let ctx ← ofExcept (Context.ofModel m g.settings)
  let table ← ofHook (d.protocols g.settings.service .default)
  let service ← ofExcept (m.expect g.settings.service)
  let protocol ← ofExcept (table.select service)
  let operations ← ofExcept (m.serviceOperations g.settings.service)
  let symbols ← ofExcept (operations.mapM ctx.symbols.symbol)
  let c ← onCrate (Crate.ofSettings g.settings)
    (Crate.write fuel .root (writeRoot ctx symbols))
  let config ← ofHook (d.configCustomizations ctx [])
  let c ← onCrate c (Crate.write fuel Config.module (Config.write config))
  let endpoint ← ofHook (d.endpointCustomizations ctx [])
  let c ← onCrate c (Crate.write fuel Endpoint.module (Endpoint.write endpoint))
  let c ← renderOperations fuel d ctx (protocol ctx) c operations
  onCrate c (Crate.finalize fuel)

end Generator

end CrateGen
