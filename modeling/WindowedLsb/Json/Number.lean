import WindowedLsb.Decimal.Notation
import WindowedLsb.Json.Document

/-!
What a numeral stands for: an integer of 64 bits or a double. A double is got from the digits that
fit a word, times or divided by a power of ten, and is thus not always the nearest one.
-/

namespace WindowedLsb.Json

inductive Number where
  | integer (n : Int)
  | float (x : Float)

namespace Number

/-- What kind of thing the number is, and its text. -/
def describe : Number → String
  | integer n => s!"integer `{n}`"
  | float x => s!"floating point `{Decimal.floatText x}`"

end Number

namespace Numeral

def maxWord : Nat := twoPow 64 - 1

def digitValue (c : Char) : Nat := c.toNat - '0'.toNat

def valueOf (ds : List Char) : Nat := ds.foldl (fun n c => 10 * n + digitValue c) 0

/-- Appends digits to a significand as long as it fits a word; the digits left over come back. -/
def absorb (significand : Nat) : List Char → Nat × List Char
  | [] => (significand, [])
  | d :: ds =>
      let next := 10 * significand + digitValue d
      if next ≤ maxWord then absorb next ds else (significand, d :: ds)

/-- The largest power of ten below the largest double. -/
def maxPower : Nat := 308

def powerOfTen (e : Nat) : Float := Float.ofScientific 1 false e

/-- A float divided by a power of ten, in steps of the largest one. -/
def shrink (x : Float) (e : Nat) : Float :=
  if e ≤ maxPower then x / powerOfTen e
  else if x == 0 then x
  else shrink (x / powerOfTen maxPower) (e - maxPower)
termination_by e
decreasing_by simp only [maxPower] at *; omega

/-- A significand times a power of ten, unless no double is large enough. -/
def scale (significand : Nat) (e : Int) : Except Fault Float :=
  let x := (UInt64.ofNat significand).toFloat
  if e < 0 then .ok (shrink x (-e).toNat)
  else if e.toNat ≤ maxPower then
    let y := x * powerOfTen e.toNat
    if y.isInf then .error .malformed else .ok y
  else if significand = 0 then .ok x
  else .error .malformed

/-- The largest exponent that is taken as it stands. -/
def maxExponent : Nat := twoPow 31 - 1

/-- The size of the double that the numeral stands for. -/
def floatSize (n : Numeral) : Except Fault Float :=
  let (significand, beyond) := absorb 0 n.whole
  let fraction := n.fraction.getD []
  let (significand, rest) := absorb significand fraction
  let shift : Int := beyond.length - (fraction.length - rest.length : Nat)
  match n.exponent with
  | none => scale significand shift
  | some (negative, ds) =>
      let e := valueOf ds
      if e ≤ maxExponent then scale significand (if negative then shift - e else shift + e)
      else if significand = 0 ∨ negative then .ok 0
      else .error .malformed

/-- The integer that the numeral stands for, if it has no fraction, exponent or negative zero and
lies between the least signed and the greatest unsigned word. -/
def integer? (n : Numeral) : Option Int :=
  if n.fraction.isSome ∨ n.exponent.isSome then none
  else
    let size := valueOf n.whole
    if n.negative then if 0 < size ∧ size ≤ twoPow 63 then some (-size) else none
    else if size ≤ maxWord then some size else none

/-- The number that the numeral stands for; a double that is too large is not JSON. -/
def number (n : Numeral) : Except Fault Number :=
  match n.integer? with
  | some i => .ok (.integer i)
  | none => do
      let x ← n.floatSize
      return .float (if n.negative then -x else x)

end Numeral
end WindowedLsb.Json
