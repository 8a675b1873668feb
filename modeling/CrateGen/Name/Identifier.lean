import CrateGen.Text.Blank

namespace CrateGen.Name

/-- Keywords that start a path and cannot be written as raw identifiers. -/
def pathKeywords : List String :=
  ["self", "Self", "crate", "super"]

/-- Keywords that can be written as raw identifiers. -/
def rawKeywords : List String :=
  ["abstract", "as", "async", "await", "become", "box", "break", "const", "continue", "do", "dyn",
   "else", "enum", "extern", "false", "final", "fn", "for", "if", "impl", "in", "let", "loop",
   "macro", "match", "mod", "move", "mut", "override", "priv", "pub", "ref", "return", "static",
   "struct", "trait", "true", "try", "type", "typeof", "unsafe", "unsized", "use", "virtual",
   "where", "while", "yield"]

/-- Where a scan for blanks stands: between tokens, in a line comment, or `depth` levels deep
in a block comment. -/
inductive BlankState where
  | between
  | line
  | block (depth : Nat)

/-- White space of source code, which includes the two direction marks. -/
def isSourceBlank (c : Char) : Bool :=
  isBlank c || c.toNat == 0x200E || c.toNat == 0x200F

/-- What follows the two characters that open a comment makes it a documentation comment: an
exclamation mark, or one more `mark` which is not itself followed by an `endMark`. -/
def opensDocs (mark : Char) (endMarks : List Char) : List Char → Bool
  | '!' :: _ => true
  | [c] => c == mark
  | c :: next :: _ => c == mark && !endMarks.contains next
  | [] => false

/-- Nothing but white space and comments. A documentation comment is not blank. -/
def isSourceBlankFrom : BlankState → List Char → Bool
  | .between, [] => true
  | .between, '/' :: '/' :: rest => !opensDocs '/' ['/'] rest && isSourceBlankFrom .line rest
  | .between, '/' :: '*' :: rest =>
    !opensDocs '*' ['*', '/'] rest && isSourceBlankFrom (.block 1) rest
  | .between, c :: rest => isSourceBlank c && isSourceBlankFrom .between rest
  | .line, [] => true
  | .line, c :: rest => isSourceBlankFrom (if c = '\n' then .between else .line) rest
  | .block _, [] => false
  | .block depth, '/' :: '*' :: rest => isSourceBlankFrom (.block (depth + 1)) rest
  | .block depth, '*' :: '/' :: rest =>
    isSourceBlankFrom (if depth ≤ 1 then .between else .block (depth - 1)) rest
  | .block depth, _ :: rest => isSourceBlankFrom (.block depth) rest

def isAsciiWord (c : Char) : Bool :=
  c.isAlphanum || c == '_'

/-- A raw keyword, perhaps with blanks behind it. -/
def needsRaw (name : List Char) : Bool :=
  rawKeywords.contains (.ofList (name.takeWhile isAsciiWord)) &&
    isSourceBlankFrom .between (name.dropWhile isAsciiWord)

/-- A name that is no keyword: path keywords get a trailing underscore, other keywords become
raw identifiers, and all else stays. -/
def escape (name : String) : String :=
  if pathKeywords.contains name then name ++ "_"
  else if needsRaw name.toList then "r#" ++ name
  else name

def dropRawMarkers : List Char → List Char
  | 'r' :: '#' :: rest => dropRawMarkers rest
  | name => name

def setter (field : String) : String :=
  "set_" ++ .ofList (dropRawMarkers field.toList)

end CrateGen.Name
