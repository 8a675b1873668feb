import CrateGen.Text.Blank
import CrateGen.Text.Lines

namespace CrateGen

/-- Text under construction: the finished lines and the line being written. -/
structure Page where
  finished : Array String := #[]
  line : String := ""
deriving DecidableEq

namespace Page

/-- Nothing is written on the current line. -/
def atLineStart (p : Page) : Bool :=
  p.line == ""

def toLines (p : Page) : List String :=
  p.finished.toList ++ [p.line]

def text (p : Page) : String :=
  Text.unlines p.toLines

def newline (p : Page) : Page :=
  { finished := p.finished.push p.line }

def ensureNewline (p : Page) : Page :=
  if p.atLineStart then p else p.newline

def indentation (level : Nat) : String :=
  .ofList (List.replicate (4 * level) ' ')

/-- Writes a piece of a line. The first piece of a line is indented; nothing is written for an
empty piece. -/
def put (p : Page) (level : Nat) (piece : String) : Page :=
  if piece == "" then p
  else { p with line := (if p.atLineStart then indentation level else p.line) ++ piece }

def emit (p : Page) (level : Nat) (text : String) : Page :=
  match Text.lines text with
  | [] => p
  | first :: rest => rest.foldl (fun p l => p.newline.put level l) (p.put level first)

end Page

namespace Text

/-- The parts that are not empty, with an empty line between them. -/
def joinSections (sections : List String) : String :=
  "\n\n".intercalate (sections.filter (· != ""))

/-- The blanks that the last line of a text starts with. -/
def lastIndent (s : String) : String :=
  leading ((lines s).getLast?.getD "")

/-- A text with every line but the first indented; empty lines stay empty. -/
def hang (indent s : String) : String :=
  match lines s with
  | [] => ""
  | first :: rest => unlines (first :: rest.map fun l => if l == "" then l else indent ++ l)

end Text

end CrateGen
