import CrateGen.Code.Crate
import CrateGen.Code.Shapes
import CrateGen.Generate.Decorator

namespace CrateGen.Operation

open Code (line block template documentShape deprecatedShape)

/-- The module that holds the modules of all operations. -/
def parentModule : Module :=
  (Module.named "operation" .exported).documented "All operations that this crate can perform."

def module (operation : Shape) : Module :=
  (((Module.named (Name.snakeCase operation.id.name) .exported).documented
    ("Types for the `" ++ operation.id.name ++ "` operation.")).childOf parentModule).asInline

def sections (customizations : List OperationCustomization) (s : OperationSection) : Code :=
  .join (customizations.map (· s))

/-- The function that makes the decoder of an operation's event stream. -/
def writeUnmarshaller (unmarshaller : RuntimeType Code) : Code :=
  template (Text.unlines [
      "/// Creates the decoder for this operation's event stream.",
      r"pub fn unmarshaller() -> #{Unmarshaller} {",
      "    #{Unmarshaller}::new()",
      r"}"])
    [("Unmarshaller", .type unmarshaller)]

/-- The type `name` of an operation. -/
def write (m : Model) (operation : Shape) (name : String)
    (customizations : List OperationCustomization) (unmarshaller : Option (RuntimeType Code)) :
    Code :=
  let sections := sections customizations
  documentShape m operation none ++
  sections (.docs operation.id) ++
  deprecatedShape operation ++
  line (Text.unlines [
    "#[derive(Debug, Clone, Default)]",
    "#[non_exhaustive]",
    "pub struct " ++ name ++ ";"]) ++
  block ("impl " ++ name)
    (line (Text.unlines [
        "/// Creates a new `" ++ name ++ "` operation.",
        r"pub fn new() -> Self {",
        "    Self",
        r"}"]) ++
      (match unmarshaller with
        | some t => writeUnmarshaller t
        | none => .nothing) ++
      sections (.items operation.id name))

def render (fuel : Nat) (ctx : Context) (operation : Shape)
    (customizations : List OperationCustomization) (unmarshaller : Option (RuntimeType Code)) :
    CrateM Unit := do
  let symbol ← Action.ofExcept (ctx.symbols.symbol operation)
  Crate.write fuel (module operation)
    (write ctx.model operation symbol.name customizations unmarshaller)

end CrateGen.Operation
