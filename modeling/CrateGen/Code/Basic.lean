import CrateGen.Code.Symbol
import CrateGen.Error

namespace CrateGen

/-- What code can see of the writer it is written by. -/
structure WriterView where
  file : String
  ns : String
  isEmpty : Bool

/-- The three kinds of comment lines. -/
inductive CommentStyle where
  | docs
  | containerDocs
  | plain

def CommentStyle.marker : CommentStyle → String
  | .docs => "///"
  | .containerDocs => "//!"
  | .plain => "//"

/-- Code still to be written: a program over the writer. Texts and templates are dedented before
they are written. -/
inductive Code where
  | nothing
  | seq (first second : Code)
  | fail (e : Error)
  /-- Writes as far as it goes, and goes on as if it had succeeded. -/
  | attempt (body : Code)
  /-- A text and a line end. -/
  | line (text : String)
  /-- A text without a line end. -/
  | inlineText (text : String)
  | template (text : String) (args : List (String × Arg Code))
  | inlineTemplate (text : String) (args : List (String × Arg Code))
  /-- Binds keys for the templates of the body. -/
  | scope (args : List (String × Arg Code)) (body : Code)
  | openBlock (header : String)
  | closeBlock (footer : String)
  /-- The body one level deeper between two lines. -/
  | within (before after : String) (body : Code)
  /-- The body in braces behind a header. -/
  | block (header : String) (body : Code)
  | blockTemplate (header : String) (args : List (String × Arg Code)) (body : Code)
  | withinTemplate (before after : String) (args : List (String × Arg Code)) (body : Code)
  | comment (style : CommentStyle) (text : String)
  | addUse (path : String)
  | declare (module : Module)
  | depend (d : Dependency Code)
  | mention (s : Symbol Code)
  /-- A name that no other part of the file gets, for the body. -/
  | withName (base : String) (body : String → Code)
  | look (body : WriterView → Code)
  /-- Code in front of the banner. -/
  | preamble (body : Code)
  | inlineModule (module : Module) (body : Code)

namespace Code

instance : Append Code :=
  ⟨seq⟩

def join : List Code → Code
  | [] => nothing
  | [c] => c
  | c :: rest => c ++ join rest

def docs (text : String) : Code :=
  comment .docs text

def containerDocs (text : String) : Code :=
  comment .containerDocs text

/-- The body between two lines where a condition holds, and the body alone otherwise. -/
def withinIf (condition : Bool) (before after : String) (body : Code) : Code :=
  bif condition then within before after body else body

def optional (text : Option String) (f : String → Code) : Code :=
  match text with
  | some text => f text
  | none => nothing

end Code

end CrateGen
