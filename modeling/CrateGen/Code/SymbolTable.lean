import CrateGen.Code.Package
import CrateGen.Model.Basic
import CrateGen.Name.Casing
import CrateGen.Name.Identifier

namespace CrateGen

structure SymbolTable where
  model : Model
  runtime : RuntimePackages
  target : Target

namespace SymbolTable

variable (t : SymbolTable)

def typeName (s : Shape) : String :=
  Name.escape (Name.pascalCase s.id.name)

/-- The type of a scalar shape; on servers a constrained one has a type of its own. -/
def primitiveSymbol (s : Shape) (type : Primitive) : Symbol Code :=
  if t.target = .server && s.traits.isConstrained then
    .named (Name.pascalCase s.id.name) "crate::model"
  else
    match type with
    | .blob => .ofRuntimeType t.runtime.blob
    | .timestamp => .ofRuntimeType t.runtime.dateTime
    | .boolean => .builtin "bool"
    | .string => .builtin "::std::string::String"
    | .byte => .builtin "i8"
    | .short => .builtin "i16"
    | .integer => .builtin "i32"
    | .long => .builtin "i64"
    | .float => .builtin "f32"
    | .double => .builtin "f64"

/-- The symbol of a member, given the symbols of targets: optional in a structure that does not
require it. -/
def memberSymbol (symbolOf : Shape → Except Error (Symbol Code)) (member : Shape) :
    Except Error (Symbol Code) := do
  let s ← symbolOf (← t.model.memberTarget member)
  let container ← t.model.expect member.id.container
  return if container.isStructure && !member.isRequired then .option s else s

/-- The symbol of a shape whose lists and maps are nested less than `depth` deep. -/
def symbolWithin : Nat → Shape → Except Error (Symbol Code)
  | 0, s => .error (.recursiveType s.id)
  | depth + 1, s =>
    match s.kind with
    | .structure _ =>
      .ok (.named (typeName s) (if s.isError then "crate::types::error" else "crate::types"))
    | .union _ | .enum _ => .ok (.named (typeName s) "crate::types")
    | .list item => do
      let item ← t.model.expect item
      return .vec (← t.memberSymbol (symbolWithin depth) item)
    | .map key value => do
      let key ← t.memberSymbol (symbolWithin depth) (← t.model.expect key)
      let value ← t.memberSymbol (symbolWithin depth) (← t.model.expect value)
      return .hashMap key value
    | .primitive type => .ok (t.primitiveSymbol s type)
    | .operation _ _ _ =>
      .ok (.named (typeName s) ("crate::operation::" ++ Name.snakeCase s.id.name))
    | .service _ _ => .ok (.named (typeName s) "crate")
    | .member _ => t.memberSymbol (symbolWithin depth) s

/-- The symbol of a shape. A chain of lists, maps and members that does not come back to a shape
is no longer than the model is large. -/
def symbol (s : Shape) : Except Error (Symbol Code) :=
  t.symbolWithin (t.model.size + 1) s

/-- The field of a structure, or the variant of a union, for a member. -/
def memberName (member : Shape) : String :=
  let name := member.id.member.getD member.id.name
  let inUnion := (t.model.get? member.id.container).any Shape.isUnion
  Name.escape (if inUnion then Name.pascalCase name else Name.snakeCase name)

end SymbolTable

end CrateGen
