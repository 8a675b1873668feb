import CrateGen.Generate.Protocol
import CrateGen.Model.Extraction
import CrateGen.Model.Retryable

namespace CrateGen

/-- Places in the module of an operation where customizations write. -/
inductive OperationSection where
  /-- More documentation of the operation's type. -/
  | docs (operation : ShapeId)
  /-- Items in the block of the operation's type. -/
  | items (operation : ShapeId) (name : String)

/-- Places in the configuration module where customizations write. -/
inductive ConfigSection where
  | fields
  | items
  | builderFields
  | builderItems
  /-- Field initializers where the builder builds. -/
  | builderBuild

/-- Places in the endpoint module where customizations write. -/
inductive EndpointSection where
  | fields
  /-- Field initializers where the parameters are made from the configuration. -/
  | fromConfig

abbrev OperationCustomization := OperationSection → Code

abbrev ConfigCustomization := ConfigSection → Code

abbrev EndpointCustomization := EndpointSection → Code

/-- An action of a decorator. The decorators of a run share the state `σ`, which is kept when an
action fails. -/
abbrev Hook (σ : Type) := ExceptT Error (StateM σ)

/-- A plugin of code generation. Every hook gets what its predecessors made and leaves it alone
by default. -/
structure Decorator (σ : Type) where
  name : String
  /-- Decorators run in ascending order. -/
  order : Int8 := 0
  /-- Whether the decorator runs for a service at all. -/
  appliesTo (service : ShapeId) : Bool := true
  transformModel (service : ShapeId) (model : Model) : Hook σ Model := pure model
  operationCustomizations (ctx : Context) (operation : Shape)
    (base : List OperationCustomization) : Hook σ (List OperationCustomization) := pure base
  configCustomizations (ctx : Context) (base : List ConfigCustomization) :
    Hook σ (List ConfigCustomization) := pure base
  endpointCustomizations (ctx : Context) (base : List EndpointCustomization) :
    Hook σ (List EndpointCustomization) := pure base
  protocols (service : ShapeId) (table : ProtocolTable) : Hook σ ProtocolTable := pure table

namespace Decorator

variable {σ : Type}

/-- Decorators in the order in which they run; those of the same order stay in the order of the
lists. -/
def sort (decorators extras : List (Decorator σ)) : List (Decorator σ) :=
  (decorators ++ extras).mergeSort fun a b => a.order ≤ b.order

/-- A hook whose error names the decorator. -/
def blame (d : Decorator σ) (hook : Hook σ α) : Hook σ α :=
  hook.adapt (Error.decorator d.name)

/-- Runs a hook of every decorator that applies to the service, each on the result of the one
before it. -/
def runAll (ds : List (Decorator σ)) (service : ShapeId) (hook : Decorator σ → α → Hook σ α)
    (base : α) : Hook σ α :=
  (ds.filter (·.appliesTo service)).foldlM (fun acc d => d.blame (hook d acc)) base

/-- The decorator that runs a list of decorators in order. -/
def chain (ds : List (Decorator σ)) : Decorator σ where
  name := "CombinedDecorator"
  transformModel service := runAll ds service fun d => d.transformModel service
  operationCustomizations ctx operation :=
    runAll ds ctx.service fun d => d.operationCustomizations ctx operation
  configCustomizations ctx := runAll ds ctx.service fun d => d.configCustomizations ctx
  endpointCustomizations ctx := runAll ds ctx.service fun d => d.endpointCustomizations ctx
  protocols service := runAll ds service fun d => d.protocols service

/-- Decorators and extras as one decorator. -/
def combine (decorators extras : List (Decorator σ)) : Decorator σ :=
  chain (sort decorators extras)

/-- A result as the result of a hook. -/
def ofExcept : Except Error α → Hook σ α
  | .ok a => pure a
  | .error e => throw e

/-- Extracts the constraints of structure members, before any decorator that might read them. -/
def extraction : Decorator σ where
  name := "ConstrainedMember"
  order := Int8.minValue
  transformModel _ m := ofExcept m.extractConstraints

/-- Marks errors of one service as retryable. -/
def retryableErrors (service : ShapeId) (errors : ShapeIds) : Decorator σ where
  name := "RetryableErrors"
  appliesTo s := s == service
  transformModel _ m := ofExcept (m.markRetryable errors)

/-- Transforms the model of a service. The service must be in the model, and every reference must
still resolve afterwards. -/
def apply (d : Decorator σ) (m : Model) (service : ShapeId) : Hook σ Model := do
  discard <| ofExcept (Context.expectService m service)
  let result ← d.transformModel service m
  ofExcept result.validate
  return result

end Decorator

end CrateGen
