import WindowedLsb.Bits

/-!
The interpretation interval of windowed least-significant-bit coding. A value sent as its `k` low
bits is read as the member of an interval of `2^k` consecutive words that has those bits; the
interval lies around a reference and is moved down by a shift, which may depend on `k`.
-/

namespace WindowedLsb

/-- The width of a word, and the most bits a header field may have. -/
def wordBits : UInt8 := 32

/-! ## Shifts -/

/-- How far below the reference the interpretation interval starts. -/
inductive Shift where
  | fixed (p : Int32)
  | rtpSequenceNumber
  | rtpTimestamp
  deriving DecidableEq

instance : Inhabited Shift := ⟨.fixed 0⟩

namespace Shift

/-- Up to this width the sequence number rule tolerates one step of reordering. -/
def sequenceNumberSmallWidth : UInt8 := 4

/-- Up to this width the timestamp rule allows no value below the reference. -/
def timestampSmallWidth : UInt8 := 2

/-- The distance from the start of the interval up to the reference, at `k` bits. -/
def offset (k : UInt8) : Shift → Int
  | fixed p => p.toInt
  | rtpSequenceNumber =>
      if k ≤ sequenceNumberSmallWidth then 1 else (twoPow (k.toNat - 5) : Int) - 1
  | rtpTimestamp => if k ≤ timestampSmallWidth then 0 else (twoPow (k.toNat - 2) : Int) - 1

/-- The shift as it stands in events and error messages. -/
def text : Shift → String
  | fixed p => s!"Fixed({p.toInt})"
  | rtpSequenceNumber => "RtpSequenceNumber"
  | rtpTimestamp => "RtpTimestamp"

end Shift

/-! ## Intervals -/

/-- The words from `lo` up to `hi`, passing from the largest word to zero if `hi < lo`. -/
structure Interval where
  lo : UInt32
  hi : UInt32
  deriving DecidableEq

namespace Interval

def reach (i : Interval) : UInt32 := i.hi - i.lo

/-- Whether a word is a member, modulo `2^32`. -/
def contains (i : Interval) (v : UInt32) : Bool := v - i.lo ≤ i.reach

/-- The first integer of the interval laid out around `ref`: the one congruent to `lo` that the
signed distance to `ref` gives. -/
def start (i : Interval) (ref : UInt32) : Int := ref.toNat - (ref - i.lo).toInt32.toInt

/-- Whether `v`, taken as an integer, lies in the interval laid out around `ref` without
wrapping. -/
def covers (i : Interval) (ref v : UInt32) : Bool :=
  decide (i.start ref ≤ v.toNat ∧ (v.toNat : Int) ≤ i.start ref + i.reach.toNat)

end Interval

/-! ## Interval functions -/

/-- The interval in which `k` low bits are read against a reference. -/
abbrev IntervalFunction := (reference : UInt32) → (k : UInt8) → Shift → Interval

/-- The word whose `k` low bits are set, all of them from `k = 32` on. -/
def lowMask (k : UInt8) : UInt32 := if k ≥ wordBits then 0xffffffff else (1 <<< k.toUInt32) - 1

/-- The standard interval: `2^k` words, the first of them `offset` below the reference. -/
def standardInterval : IntervalFunction := fun ref k shift =>
  let lo := ref - UInt32.ofInt (shift.offset k)
  ⟨lo, lo + lowMask k⟩

/-- The interval function that a table gives: row `k` holds the signed distances from the reference
to the first and the last member, and the last row serves every larger width. -/
def tableInterval (rows : List (Int × Int)) : IntervalFunction := fun ref k _ =>
  let (lo, hi) := rows.getD (min k.toNat (rows.length - 1)) (0, 0)
  ⟨ref + UInt32.ofInt lo, ref + UInt32.ofInt hi⟩

end WindowedLsb
