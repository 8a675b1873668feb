namespace CrateGen.Decimal

/-- A positive number `digits · 10 ^ exponent`. -/
structure Scaled where
  digits : Nat
  exponent : Int

structure Ratio where
  num : Nat
  den : Nat

/-- A positive binary number `significand · 2 ^ exponent` and the two ends of the interval of
numbers that round to it, in quarters of its last place. -/
structure Rounding where
  value : Nat
  low : Nat
  high : Nat
  closed : Bool
  exponent : Int

/-- The leading bit of the significand of a normal number, which its bits leave out. -/
def hiddenBit : Nat := 4503599627370496

/-- The bit that tells negative numbers. -/
def signBit : Nat := 9223372036854775808

/-- The interval around a positive finite binary64 number with the given bits. -/
def Rounding.ofBits (bits : Nat) : Rounding :=
  let biased : Nat := bits / hiddenBit % 2048
  let fraction : Nat := bits % hiddenBit
  let significand : Nat := if biased = 0 then fraction else fraction + hiddenBit
  let exponent : Int := if biased = 0 then -1076 else (biased : Int) - 1077
  let below : Nat := if fraction = 0 ∧ biased > 1 then 1 else 2
  { value := 4 * significand
    low := 4 * significand - below
    high := 4 * significand + 2
    closed := significand % 2 == 0
    exponent }

/-- The greatest power of ten that is at most `r`, as an exponent; `fuel` bounds the search
among fractions. -/
def magnitude (fuel : Nat) (r : Ratio) : Int :=
  if r.den ≤ r.num then ((Nat.toDigits 10 (r.num / r.den)).length : Int) - 1
  else
    match fuel with
    | 0 => 0
    | fuel + 1 => magnitude fuel { r with num := r.num * 10 } - 1

/-- The multiple of `10 ^ exponent` nearest to the number, if one of the two neighbours of the
number lies in its interval. A tie goes to the even neighbour. -/
def Rounding.onGrid? (x : Rounding) (exponent : Int) : Option Scaled :=
  let up := Nat.pow 2 x.exponent.toNat * Nat.pow 10 (-exponent).toNat
  let unit := Nat.pow 10 exponent.toNat * Nat.pow 2 (-x.exponent).toNat
  let below := x.value * up / unit
  let inside (a : Nat) : Bool :=
    if x.closed then x.low * up ≤ a * unit && a * unit ≤ x.high * up
    else x.low * up < a * unit && a * unit < x.high * up
  let downGap := x.value * up - below * unit
  let upGap := (below + 1) * unit - x.value * up
  match inside below && below != 0, inside (below + 1) with
  | true, true =>
    if downGap < upGap || (downGap == upGap && below % 2 == 0) then some ⟨below, exponent⟩
    else some ⟨below + 1, exponent⟩
  | true, false => some ⟨below, exponent⟩
  | false, true => some ⟨below + 1, exponent⟩
  | false, false => none

/-- The first grid, from coarse to fine, that has a point in the interval. -/
def Rounding.search (x : Rounding) (top : Int) : Nat → Scaled
  | 0 => ⟨x.value, 0⟩
  | n + 1 => (x.onGrid? top).getD (x.search (top - 1) n)

/-- The decimal with the fewest digits that reads back as the positive finite number with the
given bits, and the nearest of those. -/
def shortest (bits : Nat) : Scaled :=
  let x := Rounding.ofBits bits
  let r : Ratio :=
    ⟨x.value * Nat.pow 2 x.exponent.toNat, Nat.pow 2 (-x.exponent).toNat⟩
  x.search (magnitude 400 r + 1) 20

/-- Where positional notation ends: numbers below `10 ^ least` or from `10 ^ limit` on are
written with an exponent. -/
structure Style where
  least : Int
  limit : Int

/-- The digits of `d · 10 ^ e` without trailing zeros, and the exponent they then have. -/
def dropZeros (fuel : Nat) (s : Scaled) : Scaled :=
  match fuel with
  | 0 => s
  | fuel + 1 =>
    if s.digits % 10 = 0 ∧ s.digits ≠ 0 then dropZeros fuel ⟨s.digits / 10, s.exponent + 1⟩ else s

/-- The text of a positive decimal, with a digit after the point in positional notation. An
exponent always has a sign. -/
def Style.format (style : Style) (s : Scaled) : List Char :=
  let s := dropZeros 400 s
  let digits := Nat.toDigits 10 s.digits
  let length : Int := digits.length
  let top := length + s.exponent
  let zeros (n : Int) : List Char := List.replicate n.toNat '0'
  if top - 1 < style.least || style.limit < top then
    let mantissa := match digits with
      | [] => []
      | [d] => [d]
      | d :: rest => d :: '.' :: rest
    let power := top - 1
    mantissa ++ 'e' :: (if power < 0 then '-' else '+') :: Nat.toDigits 10 power.natAbs
  else if 0 ≤ s.exponent then digits ++ zeros s.exponent ++ ['.', '0']
  else if 0 < top then digits.take top.toNat ++ '.' :: digits.drop top.toNat
  else '0' :: '.' :: zeros (-top) ++ digits

def Style.formatFloat (style : Style) (x : Float) : String :=
  let bits := x.toBits.toNat
  let sign := if signBit ≤ bits then "-" else ""
  let size := bits % signBit
  sign ++ if size = 0 then "0.0" else .ofList (style.format (shortest size))

end CrateGen.Decimal
