import CrateGen.Code.Page
import CrateGen.Code.Template
import CrateGen.Text.Dedent
import Std.Data.ExtTreeMap

namespace CrateGen

/-- What generated code depends on: packages, and inline items by key. -/
structure Dependencies where
  cargo : Std.ExtTreeSet CargoDependency := ∅
  inline : Std.ExtTreeMap String (InlineItem Code) := ∅

namespace Dependencies

/-- Adds a dependency; an inline item whose key is known changes nothing. -/
def insert (ds : Dependencies) : Dependency Code → Dependencies
  | .cargo d => { ds with cargo := ds.cargo.insert d }
  | .inline i => { ds with inline := ds.inline.insertIfNew i.key i }

def insertAll (ds : Dependencies) (new : List (Dependency Code)) : Dependencies :=
  new.foldl insert ds

/-- The dependencies of both; of inline items with the same key the first. -/
def merge (ds new : Dependencies) : Dependencies where
  cargo := new.cargo.foldl (fun s d => s.insert d) ds.cargo
  inline := new.inline.foldl (fun m k i => m.insertIfNew k i) ds.inline

/-- Packages in order, then inline items in the order of their keys. -/
def toList (ds : Dependencies) : List (Dependency Code) :=
  ds.cargo.toList.map .cargo ++ ds.inline.values.map .inline

end Dependencies

/-- A symbol's dependencies and those of the symbols it refers to. -/
def Symbol.allDependencies : Symbol Code → List (Dependency Code)
  | { dependencies, references, .. } => dependencies ++ deps references
where
  deps : List (Symbol Code) → List (Dependency Code)
    | [] => []
    | s :: rest => s.allDependencies ++ deps rest

/-- The first line of every generated file. -/
def banner : String :=
  "// Code generated by shape-codegen. DO NOT EDIT."

/-- Stands before a piece of code in debug mode. -/
def debugMarker : String :=
  "/* @ */"

/-- The state of one file, inline module or fragment while it is written. -/
structure Writer where
  file : String
  ns : String
  showsBanner : Bool := true
  debugMode : Bool := false
  page : Page := {}
  level : Nat := 0
  dependencies : Dependencies := {}
  uses : Std.ExtTreeSet String := ∅
  /-- The declarations of child modules by name. -/
  modules : Std.ExtTreeMap String String := ∅
  /-- The scopes in force, innermost first. -/
  scopes : List Scope := []
  preamble : List String := []
  /-- The unique names given out in this file so far, latest first. -/
  issued : List String := []

namespace Writer

/-- A writer for a file. Code must be written into the crate, except for integration tests and
the build script. -/
def ofFile? (file ns : String) : Except Error Writer :=
  let inCrate := ns == "crate" || Text.startsWith ns "crate::"
  let exempt := Text.startsWith file "tests/" || file == "build.rs"
  if Text.endsWith file ".rs" && !inCrate && !exempt then .error (.namespaceOutsideCrate file ns)
  else .ok { file, ns }

def root : Writer :=
  { file := "src/lib.rs", ns := "crate" }

def ofModule (m : Module) : Writer :=
  { file := m.fileOwner.filePath, ns := m.fileOwner.fullPath }

/-- A writer for a fragment of the same file. -/
def fragment (w : Writer) (ns : String) : Writer :=
  { file := w.file, ns, showsBanner := false, debugMode := w.debugMode, scopes := w.scopes,
    issued := w.issued }

def isEmpty (w : Writer) : Bool :=
  Text.isBlankText w.page.text && w.modules.isEmpty

def view (w : Writer) : WriterView :=
  { file := w.file, ns := w.ns, isEmpty := w.isEmpty }

def emit (w : Writer) (text : String) : Writer :=
  { w with page := w.page.emit w.level text }

def newline (w : Writer) : Writer :=
  { w with page := w.page.newline }

def emitLine (w : Writer) (text : String) : Writer :=
  (w.emit text).newline

def ensureNewline (w : Writer) : Writer :=
  { w with page := w.page.ensureNewline }

/-- In debug mode, marks a place where code starts on a line of its own. -/
def mark (w : Writer) : Writer :=
  if w.debugMode && w.page.atLineStart then w.emitLine debugMarker else w

def openBlock (w : Writer) (header : String) : Writer :=
  let w := if header == "" then w else w.emitLine header
  { w with level := w.level + 1 }

def closeBlock (w : Writer) (footer : String) : Writer :=
  let w := w.ensureNewline
  let w := { w with level := w.level - 1 }
  if footer == "" then w else w.emitLine footer

/-- Comment lines, one for each line of the dedented text. -/
def comment (w : Writer) (style : CommentStyle) (text : String) : Writer :=
  (Text.lines (Text.dedent text)).foldl commentLine w.ensureNewline
where
  commentLine (w : Writer) (l : String) : Writer :=
    let l := Text.trimEnd (untab l)
    w.emitLine (if l == "" then style.marker else style.marker ++ " " ++ l)
  untab (l : String) : String :=
    .ofList (l.toList.flatMap fun c => if c = '\t' then [' ', ' '] else [c])

def addUse (w : Writer) (path : String) : Writer :=
  { w with uses := w.uses.insert path }

/-- Declares a child module; the last declaration of a name counts. -/
def declare (w : Writer) (m : Module) : Writer :=
  { w with modules := w.modules.insert m.name m.documentedDeclaration }

def depend (w : Writer) (d : Dependency Code) : Writer :=
  { w with dependencies := w.dependencies.insert d }

def mention (w : Writer) (s : Symbol Code) : Writer :=
  { w with dependencies := w.dependencies.insertAll s.allDependencies }

def mentionType (w : Writer) (t : RuntimeType Code) : Writer :=
  { w with dependencies := w.dependencies.insertAll t.dependency.toList }

/-- A name that was not given out before in this file. -/
def freshName (w : Writer) (base : String) : String :=
  base ++ "_" ++ toString (w.issued.length + 1)

def issue (w : Writer) (name : String) : Writer :=
  { w with issued := name :: w.issued }

/-- Takes over what a fragment recorded apart from its text. -/
def merge (w child : Writer) : Writer :=
  { w with
    dependencies := w.dependencies.merge child.dependencies
    uses := child.uses.foldl (fun s u => s.insert u) w.uses
    modules := child.modules.foldl (fun m name d => m.insertIfNew name d) w.modules }

def pushScope (w : Writer) (s : Scope) : Writer :=
  { w with scopes := s :: w.scopes }

def popScope (w : Writer) : Writer :=
  { w with scopes := w.scopes.tail }

def preambleText (w : Writer) : String :=
  Text.unlines w.preamble

def contents (w : Writer) : String :=
  Text.joinSections
    [Text.unlines (w.uses.toList.map fun u => "use " ++ u ++ ";"),
     Text.unlines w.modules.values,
     Text.trimEnd w.page.text]

def render (w : Writer) : String :=
  Text.joinSections
    [w.preambleText, if w.showsBanner then banner else "", w.contents] ++ "\n"

/-- Writes what a writer holds as a module block. -/
def embed (w : Writer) (m : Module) (inner : Writer) : Writer :=
  let w := w.ensureNewline
  let w := match m.info.documentation with
    | some docs => w.comment .docs docs
    | none => w
  let contents := Text.joinSections [inner.preambleText, inner.contents]
  let w := w.openBlock (m.info.visibility.marker ++ "mod " ++ m.name ++ r" {")
  let w := if contents == "" then w else w.emit contents
  let w := w.closeBlock r"}"
  { w with dependencies := w.dependencies.merge inner.dependencies }

end Writer

end CrateGen
