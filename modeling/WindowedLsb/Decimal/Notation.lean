import WindowedLsb.Decimal.Shortest

/-!
The text of a double in messages: its shortest decimal, written positionally from `10 ^ -5` up to
but excluding `10 ^ 16` and with a signed exponent elsewhere. A whole number keeps a fraction of
zero, so that it is told from an integer.
-/

namespace WindowedLsb.Decimal

/-- Places before the point up to which the positional form is used. -/
def maxPlaces : Int := 16

/-- Zeros after the point, less than which the positional form is used. -/
def maxZeros : Int := 5

private def zeros (n : Int) : List Char := List.replicate n.toNat '0'

namespace Scaled

/-- Digits before the point, or minus the zeros behind it. -/
def places (s : Scaled) : Int := (Nat.toDigits 10 s.digits).length + s.exponent

def positional (s : Scaled) : List Char :=
  let ds := Nat.toDigits 10 s.digits
  if 0 ≤ s.exponent then ds ++ zeros s.exponent ++ ['.', '0']
  else if 0 < s.places then ds.take s.places.toNat ++ '.' :: ds.drop s.places.toNat
  else '0' :: '.' :: zeros (-s.places) ++ ds

/-- The exponent of the form with one digit before the point, with its sign. -/
def exponentMark (s : Scaled) : List Char :=
  let sign := if 0 < s.places then '+' else '-'
  'e' :: sign :: Nat.toDigits 10 (s.places - 1).natAbs

/-- The number with one digit before the point and an exponent. -/
def scientific (s : Scaled) : List Char :=
  let mark := s.exponentMark
  match Nat.toDigits 10 s.digits with
  | [] => mark
  | [d] => d :: mark
  | d :: ds => d :: '.' :: ds ++ mark

def text (s : Scaled) : List Char :=
  if -maxZeros < s.places ∧ s.places ≤ maxPlaces then s.positional else s.scientific

end Scaled

def floatText (x : Float) : String :=
  let sign := if x.toBits.toNat / twoPow 63 = 1 then ['-'] else []
  let body := match magnitude? x.toBits with
    | none => ['0', '.', '0']
    | some b => b.shortest.text
  String.ofList (sign ++ body)

end WindowedLsb.Decimal
