import CrateGen.Json.Number

namespace CrateGen.Json

/-- A text of the format as far as it is well formed. Reading goes on up to the first flaw, which
leaves a `broken` part or an aggregate that is not closed; nothing comes after it. Limits on
numbers, strings and nesting are left to the one who asks for a value. -/
inductive Document where
  | null
  | boolean (b : Bool)
  | number (n : Numeral)
  /-- `none` if an escape in the string names no character. -/
  | string (s : Option String)
  | array (items : List Document) (closed : Bool)
  /-- A key is `none` if it is not a string, or if an escape in it names no character. -/
  | object (members : List (Option String × Document)) (closed : Bool)
  | broken

namespace Document

/-- Nothing is missing at the end of the part. -/
def isWhole : Document → Bool
  | .array _ closed => closed
  | .object _ closed => closed
  | .broken => false
  | _ => true

end Document

def isSpace (c : Char) : Bool :=
  c == ' ' || c == '\n' || c == '\t' || c == '\r'

def skipSpace (cs : List Char) : List Char :=
  cs.dropWhile isSpace

/-- A character of a string, or a 16-bit unit given by an escape. -/
inductive StringPart where
  | char (c : Char)
  | unit (n : Nat)

def hexDigit? (c : Char) : Option Nat :=
  if c.isDigit then some (c.toNat - '0'.toNat)
  else if 'a' ≤ c ∧ c ≤ 'f' then some (c.toNat - 'a'.toNat + 10)
  else if 'A' ≤ c ∧ c ≤ 'F' then some (c.toNat - 'A'.toNat + 10)
  else none

/-- What a letter stands for behind a backslash. -/
def escaped? (c : Char) : Option Char :=
  match c with
  | '"' => some '"'
  | '\\' => some '\\'
  | '/' => some '/'
  | 'b' => some '\x08'
  | 'f' => some '\x0c'
  | 'n' => some '\n'
  | 'r' => some '\r'
  | 't' => some '\t'
  | _ => none

/-- The parts of a string up to its closing quote, and what follows it. Control characters and
unknown escapes are flaws. -/
def readString : List Char → Option (List StringPart × List Char)
  | [] => none
  | '"' :: rest => some ([], rest)
  | '\\' :: 'u' :: a :: b :: c :: d :: rest => do
    let n := (← hexDigit? a) * 4096 + (← hexDigit? b) * 256 + (← hexDigit? c) * 16 + (← hexDigit? d)
    let (parts, rest) ← readString rest
    return (.unit n :: parts, rest)
  | '\\' :: c :: rest => do
    let c ← escaped? c
    let (parts, rest) ← readString rest
    return (.char c :: parts, rest)
  | c :: rest => do
    guard (0x20 ≤ c.toNat && c != '\\')
    let (parts, rest) ← readString rest
    return (.char c :: parts, rest)

/-- The text of string parts; units must be characters or pairs of surrogates. -/
def joinParts : List StringPart → Option (List Char)
  | [] => some []
  | .char c :: rest => (joinParts rest).map (c :: ·)
  | .unit n :: rest =>
    if n < 0xD800 || 0xE000 ≤ n then (joinParts rest).map (Char.ofNat n :: ·)
    else if 0xDC00 ≤ n then none
    else
      match rest with
      | .unit low :: rest =>
        if 0xDC00 ≤ low ∧ low < 0xE000 then
          (joinParts rest).map
            (Char.ofNat ((n - 0xD800) * 0x400 + (low - 0xDC00) + 0x10000) :: ·)
        else none
      | _ => none

/-- The text of a string behind its opening quote, and what follows it. -/
def readText? (cs : List Char) : Option (Option String × List Char) :=
  (readString cs).map fun (parts, rest) => ((joinParts parts).map .ofList, rest)

def digitsOf (cs : List Char) : List Nat :=
  cs.map fun c => c.toNat - '0'.toNat

/-- A nonempty run of digits and what follows it. -/
def readDigits? (cs : List Char) : Option (List Nat × List Char) :=
  match cs.span Char.isDigit with
  | ([], _) => none
  | (ds, rest) => some (digitsOf ds, rest)

/-- The digits before the point: a single zero, or no leading zero. -/
def readWhole? (cs : List Char) : Option (List Nat × List Char) := do
  let (ds, rest) ← readDigits? cs
  guard (ds.head? != some 0 || ds.length == 1)
  return (ds, rest)

def readExponent? (cs : List Char) : Option (Option (Bool × List Nat) × List Char) :=
  match cs with
  | 'e' :: rest | 'E' :: rest =>
    let (down, rest) := match rest with
      | '-' :: rest => (true, rest)
      | '+' :: rest => (false, rest)
      | _ => (false, rest)
    (readDigits? rest).map fun (ds, rest) => (some (down, ds), rest)
  | _ => some (none, cs)

def readNumeral? (cs : List Char) : Option (Numeral × List Char) := do
  let (negative, cs) := match cs with
    | '-' :: rest => (true, rest)
    | _ => (false, cs)
  let (whole, cs) ← readWhole? cs
  let (fraction, cs) ← match cs with
    | '.' :: rest => readDigits? rest
    | _ => some ([], cs)
  let (exponent, cs) ← readExponent? cs
  return ({ negative, whole, fraction, exponent }, cs)

mutual

/-- Reads one value. `fuel` bounds the nesting and the number of parts. -/
def readValue (fuel : Nat) (cs : List Char) : Document × List Char :=
  match fuel with
  | 0 => (.broken, [])
  | fuel + 1 =>
    match skipSpace cs with
    | 'n' :: 'u' :: 'l' :: 'l' :: rest => (.null, rest)
    | 't' :: 'r' :: 'u' :: 'e' :: rest => (.boolean true, rest)
    | 'f' :: 'a' :: 'l' :: 's' :: 'e' :: rest => (.boolean false, rest)
    | '"' :: rest =>
      match readText? rest with
      | some (s, rest) => (.string s, rest)
      | none => (.broken, [])
    | '[' :: rest =>
      match skipSpace rest with
      | ']' :: rest => (.array [] true, rest)
      | rest =>
        let (items, closed, rest) := readItems fuel rest
        (.array items closed, rest)
    | '{' :: rest =>
      match skipSpace rest with
      | '}' :: rest => (.object [] true, rest)
      | rest =>
        let (members, closed, rest) := readMembers fuel rest
        (.object members closed, rest)
    | rest =>
      match readNumeral? rest with
      | some (n, rest) => (.number n, rest)
      | none => (.broken, [])

/-- Reads the items of an array from the first or from behind a comma. -/
def readItems (fuel : Nat) (cs : List Char) : List Document × Bool × List Char :=
  match fuel with
  | 0 => ([.broken], false, [])
  | fuel + 1 =>
    let (item, rest) := readValue fuel cs
    if !item.isWhole then ([item], false, [])
    else
      match skipSpace rest with
      | ']' :: rest => ([item], true, rest)
      | ',' :: rest =>
        let (items, closed, rest) := readItems fuel rest
        (item :: items, closed, rest)
      | _ => ([item], false, [])

/-- Reads the members of an object from the first or from behind a comma. Only a key that is a
string leads on to the member's value. -/
def readMembers (fuel : Nat) (cs : List Char) :
    List (Option String × Document) × Bool × List Char :=
  match fuel with
  | 0 => ([(none, .broken)], false, [])
  | fuel + 1 =>
    match skipSpace cs with
    | '"' :: rest =>
      match readText? rest with
      | none => ([(none, .broken)], false, [])
      | some (key, rest) =>
        match skipSpace rest with
        | ':' :: rest =>
          let (value, rest) := readValue fuel rest
          if !value.isWhole then ([(key, value)], false, [])
          else
            match skipSpace rest with
            | '}' :: rest => ([(key, value)], true, rest)
            | ',' :: rest =>
              let (members, closed, rest) := readMembers fuel rest
              ((key, value) :: members, closed, rest)
            | _ => ([(key, value)], false, [])
        | _ => ([(key, .broken)], false, [])
    | _ => ([(none, .broken)], false, [])

end

/-- Reads a text, and tells whether nothing but space follows its value. -/
def Document.read (cs : List Char) : Document × Bool :=
  let (doc, rest) := readValue (2 * cs.length + 2) cs
  (doc, rest.all isSpace)

end CrateGen.Json
