import CrateGen.Code.Module
import CrateGen.Code.Path

namespace CrateGen

/-- A package that the generated crate depends on. -/
structure CargoDependency where
  name : String
  version : String
deriving DecidableEq

namespace CargoDependency

/-- Dependencies are ordered by name, then by version. -/
instance : Ord CargoDependency where
  compare := compareLex (compareOn name) (compareOn version)

instance : Std.TransOrd CargoDependency :=
  inferInstanceAs <| Std.TransCmp <| compareLex (compareOn name) (compareOn version)

instance : Std.LawfulEqOrd CargoDependency where
  eq_of_compare {a b} h := by
    obtain ⟨hname, hversion⟩ := Ordering.then_eq_eq.mp h
    cases a
    cases b
    simp only [CargoDependency.mk.injEq]
    exact ⟨Std.LawfulEqOrd.eq_of_compare hname, Std.LawfulEqOrd.eq_of_compare hversion⟩

/-- The package as the head of a path: hyphens become underscores. -/
def pathName (d : CargoDependency) : String :=
  .ofList (d.name.toList.map fun c => if c = '-' then '_' else c)

end CargoDependency

/-- Code that is written into `module` once something refers to it. Items with the same key are
the same item. -/
structure InlineItem (Code : Type) where
  key : String
  module : Module
  code : Code

inductive Dependency (Code : Type) where
  | cargo (package : CargoDependency)
  | inline (item : InlineItem Code)

/-- Inline items are compared by their keys alone. -/
instance {Code : Type} : BEq (Dependency Code) where
  beq
    | .cargo a, .cargo b => a == b
    | .inline a, .inline b => a.key == b.key
    | _, _ => false

/-- A path to an item outside the model, and what the generated crate needs for it. -/
structure RuntimeType (Code : Type) where
  path : String
  dependency : Option (Dependency Code) := none

/-- A shape as generated code refers to it. -/
structure Symbol (Code : Type) where
  name : String
  ns : String
  /-- The type in full, as generated code writes it. -/
  type : String
  isOptional : Bool := false
  dependencies : List (Dependency Code) := []
  references : List (Symbol Code) := []

variable {Code : Type}

def CargoDependency.toType (d : CargoDependency) : RuntimeType Code :=
  { path := d.pathName, dependency := some (.cargo d) }

namespace RuntimeType

/-- The item `name` of `module`, which `code` writes when it is first referred to. -/
def ofInline (name : String) (module : Module) (code : Code) : RuntimeType Code :=
  let path := module.fullPath ++ "::" ++ name
  { path, dependency := some (.inline { key := path, module, code }) }

def resolve (t : RuntimeType Code) (child : String) : RuntimeType Code :=
  { t with path := t.path ++ "::" ++ child }

def name (t : RuntimeType Code) : String :=
  Path.lastSegment t.path

end RuntimeType

namespace Symbol

mutual

def equal (a b : Symbol Code) : Bool :=
  match a, b with
  | { name, ns, type, isOptional, dependencies, references }, b =>
    name == b.name && ns == b.ns && type == b.type && isOptional == b.isOptional &&
      dependencies == b.dependencies && equalAll references b.references

def equalAll : List (Symbol Code) → List (Symbol Code) → Bool
  | [], [] => true
  | a :: as, b :: bs => equal a b && equalAll as bs
  | _, _ => false

end

instance : BEq (Symbol Code) :=
  ⟨equal⟩

/-- The type `name` of the module `ns`. -/
def named (name ns : String) : Symbol Code :=
  { name, ns, type := if ns = "" then name else ns ++ "::" ++ name }

def builtin (type : String) : Symbol Code :=
  named type ""

def ofRuntimeType (t : RuntimeType Code) : Symbol Code :=
  let (ns, name) := (Path.splitLast? t.path).getD ("", t.path)
  { (named name ns : Symbol Code) with dependencies := t.dependency.toList }

def generic (ns name : String) (arguments : List (Symbol Code)) : Symbol Code :=
  { name, ns
    type := ns ++ "::" ++ name ++ "<" ++ ", ".intercalate (arguments.map Symbol.type) ++ ">"
    references := arguments }

def option (inner : Symbol Code) : Symbol Code :=
  { generic "::std::option" "Option" [inner] with isOptional := true }

def vec (inner : Symbol Code) : Symbol Code :=
  generic "::std::vec" "Vec" [inner]

def hashMap (key value : Symbol Code) : Symbol Code :=
  generic "::std::collections" "HashMap" [key, value]

def builder (s : Symbol Code) : Symbol Code :=
  named (s.name ++ "Builder") (s.ns ++ "::builders")

end Symbol

/-- What can be bound to a key of a template. -/
inductive Arg (Code : Type) where
  | symbol (s : Symbol Code)
  | type (t : RuntimeType Code)
  | literal (text : String)
  | code (c : Code)

end CrateGen
