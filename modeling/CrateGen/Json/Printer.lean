import CrateGen.Decimal.Shortest
import CrateGen.Json.Value

namespace CrateGen.Json

/-- Floats from `10 ^ -5` up to `10 ^ 16` are written without an exponent. -/
def floatStyle : Decimal.Style :=
  ⟨-5, 16⟩

def unitDigits (n : Nat) : List Char :=
  [n / 4096 % 16, n / 256 % 16, n / 16 % 16, n % 16].map Nat.digitChar

/-- How a character stands in a string: quotes, backslashes and control characters are
escaped. -/
def escapeChar (c : Char) : List Char :=
  if c = '"' then ['\\', '"']
  else if c = '\\' then ['\\', '\\']
  else if c = '\x08' then ['\\', 'b']
  else if c = '\x0c' then ['\\', 'f']
  else if c = '\n' then ['\\', 'n']
  else if c = '\r' then ['\\', 'r']
  else if c = '\t' then ['\\', 't']
  else if c.toNat < 0x20 then '\\' :: 'u' :: unitDigits c.toNat
  else [c]

def printString (s : String) : List Char :=
  '"' :: s.toList.flatMap escapeChar ++ ['"']

def Number.print : Number → String
  | .integer n => toString n
  | .float x => floatStyle.formatFloat x

mutual

def Value.print : Value → List Char
  | .null => ['n', 'u', 'l', 'l']
  | .boolean true => ['t', 'r', 'u', 'e']
  | .boolean false => ['f', 'a', 'l', 's', 'e']
  | .number n => n.print.toList
  | .string s => printString s
  | .array items => '[' :: printItems items ++ [']']
  | .object members => '{' :: printMembers members ++ ['}']

def printItems : List Value → List Char
  | [] => []
  | [v] => v.print
  | v :: rest => v.print ++ ',' :: printItems rest

def printMembers : List (String × Value) → List Char
  | [] => []
  | [(k, v)] => printString k ++ ':' :: v.print
  | (k, v) :: rest => printString k ++ ':' :: v.print ++ ',' :: printMembers rest

end

end CrateGen.Json
