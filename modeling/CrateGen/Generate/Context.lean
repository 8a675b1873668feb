import CrateGen.Code.SymbolTable

namespace CrateGen

/-- What the parts of a generation run share. -/
structure Context where
  model : Model
  settings : Settings

namespace Context

/-- Checks that an id names a service. -/
def expectService (m : Model) (id : ShapeId) : Except Error Shape := do
  let s ← m.expect id
  match s.kind with
  | .service _ _ => return s
  | _ => throw (.unexpectedShapeKind id "service")

def ofModel (model : Model) (settings : Settings) : Except Error Context := do
  discard <| expectService model settings.service
  return { model, settings }

def service (ctx : Context) : ShapeId :=
  ctx.settings.service

def target (ctx : Context) : Target :=
  ctx.settings.codegen.target

def runtime (ctx : Context) : RuntimePackages :=
  ctx.settings.runtime

def symbols (ctx : Context) : SymbolTable :=
  { model := ctx.model, runtime := ctx.runtime, target := ctx.target }

end Context

end CrateGen
