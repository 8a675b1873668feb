import CrateGen.Text.LetterCase
import CrateGen.Text.Lines

namespace CrateGen.Name

/-- The characters that divide the words of a name. -/
def isSeparator (c : Char) : Bool :=
  c == '-' || c == ' ' || c == '_'

/-- A word starts at an upper-case letter after a lower-case letter or a digit, or at the last
letter of a run of upper-case letters when a lower-case letter follows. -/
def startsWord (prev next : Option Char) : Bool :=
  match prev with
  | none => false
  | some p =>
    isLower p || p.isDigit || (isUpper p && match next with
      | some n => isLower n
      | none => false)

/-- Whether an underscore may be written after the output that ends in `last`. -/
def mayDivide (last : Option Char) : Bool :=
  match last with
  | none => false
  | some c => c != '_'

/-- Snake case of the rest of a name after the character `prev`, where the output so far ends
in `last`. -/
def snakeFrom (prev last : Option Char) : List Char → List Char
  | [] => []
  | c :: rest =>
    if isSeparator c then
      if mayDivide last then '_' :: snakeFrom (some c) (some '_') rest
      else snakeFrom (some c) last rest
    else
      let low := lowerChars c
      let divided := isUpper c && startsWord prev rest.head? && mayDivide last
      (if divided then '_' :: low else low) ++ snakeFrom (some c) (low.getLast?.or last) rest

/-- Lower-case words joined by underscores. -/
def snakeCase (name : String) : String :=
  .ofList (snakeFrom none none name.toList)

def capitalizeChars : List Char → List Char
  | [] => []
  | c :: rest => upperChars c ++ rest

def capitalize (word : String) : String :=
  .ofList (capitalizeChars word.toList)

/-- The words of the snake case, capitalized and joined. -/
def pascalCase (name : String) : String :=
  .ofList ((Text.splitAt '_' (snakeFrom none none name.toList)).flatMap capitalizeChars)

end CrateGen.Name
