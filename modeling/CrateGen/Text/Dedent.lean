import CrateGen.Text.Blank
import CrateGen.Text.Lines

namespace CrateGen.Text

/-- The part of a list of characters from byte `n` of its UTF-8 form on, if a character
starts or the list ends there. -/
def dropBytes? : Nat → List Char → Option (List Char)
  | 0, cs => some cs
  | _ + 1, [] => none
  | n + 1, c :: cs => if c.utf8Size ≤ n + 1 then dropBytes? (n + 1 - c.utf8Size) cs else none

/-- The width in bytes of a line's leading blanks. -/
def indentWidth : List Char → Nat
  | [] => 0
  | c :: rest => if isBlank c then c.utf8Size + indentWidth rest else 0

/-- Drops the first line if it is blank, unless it is the only one. -/
def dropBlankFirst (ls : List (List Char)) : List (List Char) :=
  match ls with
  | l :: next :: rest => if l.all isBlank then next :: rest else ls
  | _ => ls

/-- Drops the last line if it is blank, unless it is the only one. -/
def dropBlankLast : List (List Char) → List (List Char)
  | [] => []
  | [l] => [l]
  | [l, last] => if last.all isBlank then [l] else [l, last]
  | l :: rest => l :: dropBlankLast rest

/-- The least indentation of a line that is not blank, or zero. -/
def commonIndent (ls : List (List Char)) : Nat :=
  ((ls.filter (!·.all isBlank)).map indentWidth).min?.getD 0

/-- A line without its first `indent` bytes and its trailing blanks. A line in which no
character starts at that byte loses all its leading blanks instead. -/
def dedentLine (indent : Nat) (line : List Char) : List Char :=
  if line.all isBlank then []
  else dropTrailing isBlank ((dropBytes? indent line).getD (line.dropWhile isBlank))

/-- Strips the common leading indentation and the trailing blanks of every line, and one blank
first and last line. -/
def dedent (s : String) : String :=
  let ls := dropBlankLast (dropBlankFirst (splitAt '\n' s.toList))
  unlines ((ls.map (dedentLine (commonIndent ls))).map .ofList)

end CrateGen.Text
