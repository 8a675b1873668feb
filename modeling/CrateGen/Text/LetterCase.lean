import CrateGen.Text.LetterCase.Table

namespace CrateGen

def isUpper (c : Char) : Bool :=
  if c.toNat < 0x80 then c.isUpper else LetterCase.upperSet.contains c

def isLower (c : Char) : Bool :=
  if c.toNat < 0x80 then c.isLower else LetterCase.lowerSet.contains c

namespace LetterCase

def isCased (c : Char) : Bool :=
  if c.toNat < 0x80 then c.isAlpha else casedSet.contains c

def isIgnorable (c : Char) : Bool :=
  ignorableSet.contains c

/-- The case partner of `c` in tables of expansions and shifts; `c` itself if it has none. -/
def convert (expansions : List (Nat × List Nat)) (shifts : List ShiftRun) (c : Char) : List Char :=
  match expansions.find? (·.1 == c.toNat) with
  | some (_, cs) => cs.map Char.ofNat
  | none =>
    match shifts.find? (·.chars.contains c) with
    | some r => [Char.ofNat (c.toNat + r.shift).toNat]
    | none => [c]

end LetterCase

def lowerChars (c : Char) : List Char :=
  if c.toNat < 0x80 then [c.toLower]
  else LetterCase.convert LetterCase.lowerExpansions LetterCase.lowerShifts c

def upperChars (c : Char) : List Char :=
  if c.toNat < 0x80 then [c.toUpper]
  else LetterCase.convert LetterCase.upperExpansions LetterCase.upperShifts c

namespace LetterCase

/-- The first character that is not case-ignorable is cased. -/
def meetsCased (cs : List Char) : Bool :=
  ((cs.dropWhile isIgnorable).head?.map isCased).getD false

/-- Lower case of `rest` after the characters `before`, nearest first: a sigma that ends a word
becomes the final sigma. -/
def lowerWithin (before : List Char) : List Char → List Char
  | [] => []
  | c :: rest =>
    let low :=
      if c = 'Σ' then [if meetsCased before && !meetsCased rest then 'ς' else 'σ']
      else lowerChars c
    low ++ lowerWithin (c :: before) rest

end LetterCase

def lowercase (s : String) : String :=
  .ofList (LetterCase.lowerWithin [] s.toList)

end CrateGen
