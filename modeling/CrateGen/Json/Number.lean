namespace CrateGen.Json

/-- The parts of a number as written: decimal digits before the point, after it, and in the
exponent with its sign. -/
structure Numeral where
  negative : Bool
  whole : List Nat
  fraction : List Nat
  exponent : Option (Bool × List Nat)

/-- The value of a number: an integer that fits 64 bits, signed or unsigned, or a float. -/
inductive Number where
  | integer (n : Int)
  | float (x : Float)

/-- Unsigned integers of 64 bits are below this limit. -/
def wordLimit : Nat := 18446744073709551616

/-- Leading digits gathered into 64 bits, and how many further digits did not fit. -/
def gather (significand : Nat) : List Nat → Nat × Nat
  | [] => (significand, 0)
  | d :: rest =>
    if significand * 10 + d < wordLimit then gather (significand * 10 + d) rest
    else (significand, rest.length + 1)

/-- `10 ^ n` rounded to a float, for `n` up to 308. -/
def pow10 (n : Nat) : Float :=
  Float.ofScientific 1 false n

/-- `f · 10 ^ exponent`, scaled in steps of at most `10 ^ 308`; `none` if it is too large. -/
def scale (fuel : Nat) (f : Float) (exponent : Int) : Option Float :=
  if exponent.natAbs ≤ 308 then
    if 0 ≤ exponent then
      let scaled := f * pow10 exponent.natAbs
      if scaled.isInf then none else some scaled
    else some (f / pow10 exponent.natAbs)
  else if f == 0.0 then some f
  else if 0 ≤ exponent then none
  else
    match fuel with
    | 0 => some f
    | fuel + 1 => scale fuel (f / pow10 308) (exponent + 308)

/-- The greatest and the least exponent of 32 bits. -/
def maxExponent : Int := 2147483647

def minExponent : Int := -2147483648

namespace Numeral

/-- A significand of 64 bits and a power of ten. Digits of the whole part that do not fit count
as zeros; the first digit of the fraction that does not fit ends it. -/
def parts (n : Numeral) : Nat × Int :=
  let (whole, dropped) := gather 0 n.whole
  let (significand, ignored) := gather whole n.fraction
  (significand, (dropped : Int) - ((n.fraction.length - ignored : Nat) : Int))

def toFloat? (n : Numeral) : Option Float := do
  let (significand, power) := n.parts
  let scaled ← match n.exponent with
    | none => scale 10 (Float.ofNat significand) power
    | some (down, digits) =>
      let size : Nat := digits.foldl (fun a d => a * 10 + d) 0
      if maxExponent < size then
        if significand ≠ 0 && !down then none else some 0.0
      else
        let total : Int := if down then power - size else power + size
        scale 10 (Float.ofNat significand) (max minExponent (min maxExponent total))
  return if n.negative then -scaled else scaled

/-- The value of a numeral; `none` if its magnitude is beyond every float. A negative zero and
integers of more than 64 bits are floats. -/
def value? (n : Numeral) : Option Number :=
  let (significand, dropped) := gather 0 n.whole
  if n.fraction.isEmpty && n.exponent.isNone && dropped == 0 then
    if !n.negative then some (.integer significand)
    else if significand = 0 || wordLimit / 2 < significand then
      some (.float (-Float.ofNat significand))
    else some (.integer (-significand))
  else n.toFloat?.map .float

end Numeral

end CrateGen.Json
