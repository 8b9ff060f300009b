import WindowedLsb.Bits

/-!
The shortest decimal that names a binary floating-point number. Of all decimals that round to the
number the one on the coarsest decimal grid is taken, and of two on that grid the nearer.
-/

namespace WindowedLsb.Decimal

/-- The decimal `digits · 10 ^ exponent`. -/
structure Scaled where
  digits : Nat
  exponent : Int
  deriving DecidableEq

/-- A positive binary number `mantissa · 2 ^ exponent`. The gap to the number below it is half the
gap above where the mantissa is the least of its binade. -/
structure Binary where
  mantissa : Nat
  exponent : Int
  narrowBelow : Bool

/-- `base ^ e` for positive `e`, else one. -/
private def powUp (base : Nat) (e : Int) : Nat := Nat.pow base e.toNat

namespace Binary

/-- A quarter of the gap above the number is the unit in which the ends of its interval are whole:
here the lower end, the number itself and the upper end. -/
def quarters (b : Binary) : Nat × Nat × Nat :=
  (if b.narrowBelow then 4 * b.mantissa - 1 else 4 * b.mantissa - 2, 4 * b.mantissa,
    4 * b.mantissa + 2)

/-- The multiple of `10 ^ e` nearest to the number, if one rounds to it. A decimal halfway between
two binary numbers goes to the even one; of two equally near multiples the even one is taken. -/
def onGrid? (b : Binary) (e : Int) : Option Scaled :=
  let scale := powUp 2 (b.exponent - 2) * powUp 10 (-e)
  let unit := powUp 10 e * powUp 2 (2 - b.exponent)
  let (lo, mid, hi) := b.quarters
  let rounds (d : Nat) : Bool :=
    if b.mantissa % 2 = 0 then lo * scale ≤ d * unit ∧ d * unit ≤ hi * scale
    else lo * scale < d * unit ∧ d * unit < hi * scale
  let below := mid * scale / unit
  let above := below + 1
  let upward : Bool :=
    let twice := 2 * (mid * scale)
    let half := (below + above) * unit
    half < twice ∨ (half = twice ∧ below % 2 = 1)
  match rounds below && 0 < below, rounds above with
  | true, true => some ⟨if upward then above else below, e⟩
  | true, false => some ⟨below, e⟩
  | false, true => some ⟨above, e⟩
  | false, false => none

/-- Exponents of ten between the largest and the smallest number of double precision. -/
def gridExponents : List Int := (List.range 634).map fun (i : Nat) => 308 - (i : Int)

def shortest (b : Binary) : Scaled := (gridExponents.findSome? b.onGrid?).getD ⟨0, 0⟩

end Binary

/-- The positive number that the bits of a double stand for, the sign left out; `none` for zero. -/
def magnitude? (bits : UInt64) : Option Binary :=
  let fraction := bits.toNat % twoPow 52
  let biased : Nat := bits.toNat / twoPow 52 % twoPow 11
  if biased = 0 then
    if fraction = 0 then none else some ⟨fraction, -1074, false⟩
  else some ⟨twoPow 52 + fraction, (biased : Int) - 1075, fraction = 0 ∧ 1 < biased⟩

end WindowedLsb.Decimal
