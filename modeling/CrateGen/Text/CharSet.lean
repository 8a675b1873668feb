namespace CrateGen

/-- The code points `first`, `first + step`, … up to `last`. -/
structure CharSet.Run where
  first : Nat
  last : Nat
  step : Nat

/-- A set of characters, as runs of code points. -/
abbrev CharSet := List CharSet.Run

namespace CharSet

def Run.contains (r : Run) (c : Char) : Bool :=
  r.first ≤ c.toNat && c.toNat ≤ r.last && (c.toNat - r.first) % r.step == 0

def contains (s : CharSet) (c : Char) : Bool :=
  s.any (·.contains c)

end CharSet

end CrateGen
