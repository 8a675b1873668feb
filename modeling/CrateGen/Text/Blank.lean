namespace CrateGen

/-- The `White_Space` property. -/
def isBlank (c : Char) : Bool :=
  let n := c.toNat
  (0x9 ≤ n && n ≤ 0xD) || n == 0x20 || n == 0x85 || n == 0xA0 || n == 0x1680 ||
    (0x2000 ≤ n && n ≤ 0x200A) || n == 0x2028 || n == 0x2029 || n == 0x202F || n == 0x205F ||
    n == 0x3000

namespace Text

/-- A list without its longest suffix of elements satisfying `p`. -/
def dropTrailing (p : α → Bool) : List α → List α
  | [] => []
  | a :: as =>
    match dropTrailing p as with
    | [] => if p a then [] else [a]
    | rest => a :: rest

/-- The characters before the first that is not blank. -/
def leading (s : String) : String :=
  .ofList (s.toList.takeWhile isBlank)

def trimEnd (s : String) : String :=
  .ofList (dropTrailing isBlank s.toList)

def trim (s : String) : String :=
  .ofList (dropTrailing isBlank (s.toList.dropWhile isBlank))

def isBlankText (s : String) : Bool :=
  s.toList.all isBlank

end Text

end CrateGen
