import CrateGen.Text.Lines

namespace CrateGen

inductive Visibility where
  | exported
  | inCrate
  | hidden
deriving DecidableEq

/-- What stands before an item of the visibility. -/
def Visibility.marker : Visibility → String
  | .exported => "pub "
  | .inCrate => "pub(crate) "
  | .hidden => ""

/-- What a module is, apart from its place in the tree. -/
structure ModuleInfo where
  name : String
  visibility : Visibility := .exported
  inline : Bool := false
  documentation : Option String := none
deriving DecidableEq

/-- A module of the generated crate. A file module has a file of its own; an inline module is a
block in the file of its parent. -/
inductive Module where
  | top (info : ModuleInfo)
  | child (parent : Module) (info : ModuleInfo)
deriving DecidableEq

namespace Module

def root : Module :=
  .top { name := "crate" }

def info : Module → ModuleInfo
  | .top info => info
  | .child _ info => info

def mapInfo (f : ModuleInfo → ModuleInfo) : Module → Module
  | .top info => .top (f info)
  | .child parent info => .child parent (f info)

def named (name : String) (visibility : Visibility) : Module :=
  .child root { name, visibility }

def childOf (m parent : Module) : Module :=
  .child parent m.info

def asInline (m : Module) : Module :=
  m.mapInfo fun info => { info with inline := true }

def documented (m : Module) (docs : String) : Module :=
  m.mapInfo fun info => { info with documentation := some docs }

def name (m : Module) : String :=
  m.info.name

def isInline (m : Module) : Bool :=
  m.info.inline

def parent? : Module → Option Module
  | .top _ => none
  | .child parent _ => some parent

def isTop (m : Module) : Bool :=
  m.parent?.isNone

/-- The names from the top down, joined as in a path of the generated code. -/
def fullPath : Module → String
  | .top info => info.name
  | .child parent info => parent.fullPath ++ "::" ++ info.name

/-- The module in whose file the code of a module ends up. -/
def fileOwner : Module → Module
  | .top info => .top info
  | .child parent info => if info.inline then parent.fileOwner else .child parent info

/-- The names from below the top down to the module. -/
def segments : Module → List String
  | .top _ => []
  | .child parent info => parent.segments ++ [info.name]

/-- The path of the file that holds the module, below the folder of the crate. -/
def filePath (m : Module) : String :=
  match m.fileOwner with
  | .top _ => "src/lib.rs"
  | owner => "src/" ++ "/".intercalate owner.segments ++ ".rs"

def ancestors : Module → List Module
  | .top _ => []
  | .child parent _ => parent :: parent.ancestors

/-- A module and the file modules above it, nearest first: each is declared in the file of the
next. -/
def fileChain (m : Module) : List Module :=
  m :: m.ancestors.filter fun a => a.isTop || !a.isInline

/-- The item that declares a file module in its parent's file. -/
def declaration (m : Module) : String :=
  m.info.visibility.marker ++ "mod " ++ m.name ++ ";"

/-- The declaration below the module's documentation. -/
def documentedDeclaration (m : Module) : String :=
  let docs := match m.info.documentation with
    | some docs => (Text.terminatedLines docs).map fun l => "/// " ++ l
    | none => []
  Text.unlines (docs ++ [m.declaration])

end Module

end CrateGen
