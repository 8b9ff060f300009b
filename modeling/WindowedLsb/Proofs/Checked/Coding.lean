import WindowedLsb.Proofs.Checked.Basic
import WindowedLsb.Proofs.Coding

/-!
Intervals and coding with every shift, difference and sum checked. The rules for RTP fields trap at large
widths; no width of a word is among these, and the coder asks for no larger one.
-/

namespace WindowedLsb.Checked

variable {k : UInt8} {i : Interval} {bits ref v : UInt32} {shift : Shift}

/-! ## Shifts and masks -/

/-- A power of two less one, `d` powers below `2 ^ k`, in signed words. -/
def powerLess (k : UInt8) (d : Nat) : Except Trap Int := do
  let top ← bit 64 (← sub k.toNat d)
  signed ((top : Int).bmod (2 ^ 64) - 1)

def offset (k : UInt8) : Shift → Except Trap Int
  | .fixed p => .ok p.toInt
  | .rtpSequenceNumber => if k ≤ Shift.sequenceNumberSmallWidth then .ok 1 else powerLess k 5
  | .rtpTimestamp => if k ≤ Shift.timestampSmallWidth then .ok 0 else powerLess k 2

def lowMask (k : UInt8) : Except Trap UInt32 :=
  if k ≥ wordBits then .ok 0xffffffff
  else do return UInt32.ofNat (← sub (← bit 32 k.toNat) 1)

theorem powerLess_eq_ok {d : Nat} (hk : k ≤ wordBits) (hd : d ≤ k.toNat) :
    powerLess k d = .ok ((twoPow (k.toNat - d) : Int) - 1) := by
  have hn : k.toNat - d ≤ 32 := le_trans (Nat.sub_le _ _) (toNat_le_of_le_wordBits hk)
  have hpos : 0 < 2 ^ (k.toNat - d) := Nat.two_pow_pos _
  have hle : 2 ^ (k.toNat - d) ≤ 2 ^ 32 := Nat.pow_le_pow_right (by decide) hn
  have hmod : ((2 ^ (k.toNat - d) : Nat) : Int).bmod (2 ^ 64) = (2 ^ (k.toNat - d) : Nat) :=
    Int.bmod_eq_of_le (by omega) (by omega)
  rw [powerLess, sub_eq_ok hd, ok_bind, bit_eq_ok (by omega), ok_bind, hmod]
  exact signed_eq_ok (by omega) (by omega)

theorem offset_eq_ok (hk : k ≤ wordBits) (shift : Shift) : offset k shift = .ok (shift.offset k) := by
  cases shift with
  | fixed p => rfl
  | rtpSequenceNumber =>
      simp only [offset, Shift.offset]
      split
      · rfl
      · rename_i hlt
        have hd : 5 ≤ k.toNat := by
          rw [UInt8.le_iff_toNat_le] at hlt
          exact Nat.lt_of_not_le hlt
        exact powerLess_eq_ok hk hd
  | rtpTimestamp =>
      simp only [offset, Shift.offset]
      split
      · rfl
      · rename_i hlt
        have hd : 2 ≤ k.toNat := by
          rw [UInt8.le_iff_toNat_le] at hlt
          exact Nat.le_of_lt (Nat.lt_of_not_le hlt)
        exact powerLess_eq_ok hk hd

/-- The sequence number rule is good for many more bits than a word has, but not for all. -/
example : offset 67 .rtpSequenceNumber = .ok (2 ^ 62 - 1) ∧
    offset 68 .rtpSequenceNumber = .error .overflow := by decide

theorem lowMask_eq_ok (k : UInt8) : lowMask k = .ok (WindowedLsb.lowMask k) := by
  by_cases hk : k ≥ wordBits
  · rw [lowMask, WindowedLsb.lowMask, if_pos hk, if_pos hk]
  · have hlt : k.toNat < 32 := by
      rw [ge_iff_le, UInt8.le_iff_toNat_le] at hk
      exact Nat.lt_of_not_le hk
    have hmask : UInt32.ofNat (2 ^ k.toNat - 1) = WindowedLsb.lowMask k := by
      rw [← toNat_lowMask (UInt8.le_of_lt (UInt8.not_le.mp hk)), UInt32.ofNat_toNat]
    rw [lowMask, if_neg hk, bit_eq_ok hlt, ok_bind, sub_eq_ok (Nat.two_pow_pos _), ok_bind, ← hmask]
    rfl

/-! ## Intervals -/

/-- An interval function that may trap. -/
abbrev IntervalFunction := (reference : UInt32) → (k : UInt8) → Shift → Except Trap Interval

def standardInterval : IntervalFunction := fun ref k shift => do
  let width ← lowMask k
  let lo := ref - UInt32.ofInt (← offset k shift)
  return ⟨lo, lo + width⟩

/-- Membership without wrapping, in signed words. -/
def covers (i : Interval) (ref v : UInt32) : Except Trap Bool := do
  let lo ← signed (ref.toNat - (ref - i.lo).toInt32.toInt)
  let hi ← signed (lo + i.reach.toNat)
  return decide (lo ≤ v.toNat ∧ (v.toNat : Int) ≤ hi)

/-- At these widths the interval function gives the intervals of another one; at others it may give
any, and trap. -/
def IntervalFunction.SoundOn (f : IntervalFunction) (g : WindowedLsb.IntervalFunction)
    (widths : Set UInt8) (shift : Shift) : Prop :=
  ∀ k ∈ widths, ∀ ref, f ref k shift = .ok (g ref k shift)

/-- Traps at widths above the limit. -/
def IntervalFunction.upTo (f : IntervalFunction) (limit : UInt8) : IntervalFunction :=
  fun ref k shift => if k ≤ limit then f ref k shift else .error .assertion

theorem IntervalFunction.SoundOn.mono {f : IntervalFunction} {g : WindowedLsb.IntervalFunction}
    {s t : Set UInt8} (h : f.SoundOn g t shift) (hst : s ⊆ t) : f.SoundOn g s shift :=
  fun k hk => h k (hst hk)

theorem IntervalFunction.SoundOn.upTo {f : IntervalFunction} {g : WindowedLsb.IntervalFunction}
    {limit : UInt8} (h : f.SoundOn g {k | k ≤ limit} shift) :
    (f.upTo limit).SoundOn g {k | k ≤ limit} shift :=
  fun k hk ref => (if_pos hk).trans (h k hk ref)

theorem standardInterval_sound (shift : Shift) :
    standardInterval.SoundOn WindowedLsb.standardInterval {k | k ≤ wordBits} shift := by
  intro k hk ref
  rw [standardInterval, lowMask_eq_ok, ok_bind, offset_eq_ok hk, ok_bind]
  rfl

/-- No interval lies so far from its reference that signed words could not hold its ends. -/
theorem covers_eq_ok (i : Interval) (ref v : UInt32) : covers i ref v = .ok (i.covers ref v) := by
  have href := ref.toNat_lt
  have hreach := i.reach.toNat_lt
  have hlo := (ref - i.lo).toInt32.le_toInt
  have hhi := (ref - i.lo).toInt32.toInt_lt
  rw [covers, signed_eq_ok (by omega) (by omega), ok_bind, signed_eq_ok (by omega) (by omega), ok_bind]
  rfl

/-! ## Coding -/

def encode (v : UInt32) (k : UInt8) : Except Trap (Except Error UInt32) :=
  if k > wordBits then .ok (.error (CodingFault.tooWide k).toError)
  else do return .ok (v &&& (← lowMask k))

def decodeWith (f : IntervalFunction) (bits ref : UInt32) (k : UInt8) (shift : Shift) :
    Except Trap (Except Error UInt32) :=
  if k > wordBits then .ok (.error (CodingFault.tooWide k).toError)
  else do
    let mask ← lowMask k
    if bits &&& ~~~mask ≠ 0 then return .error (CodingFault.tooLarge bits k).toError
    let i ← f ref k shift
    let v := i.lo + ((bits - i.lo) &&& mask)
    if i.contains v then return .ok v
    return .error (CodingFault.unresolved i bits ref k shift).toError

theorem encode_eq_ok (v : UInt32) (k : UInt8) : encode v k = .ok (WindowedLsb.encode v k) := by
  rw [encode, WindowedLsb.encode, lowMask_eq_ok]
  split <;> rfl

/-- The decoder asks for the interval of no width larger than that of a word. -/
theorem decodeWith_eq_ok {f : IntervalFunction} {g : WindowedLsb.IntervalFunction}
    (hf : f.SoundOn g {k | k ≤ wordBits} shift) (bits ref : UInt32) (k : UInt8) :
    decodeWith f bits ref k shift = .ok (WindowedLsb.decodeWith g bits ref k shift) := by
  by_cases hk : k > wordBits
  · rw [decodeWith, WindowedLsb.decodeWith, if_pos hk, if_pos hk]
  · have hi := hf k (UInt8.not_lt.mp hk) ref
    rw [decodeWith, WindowedLsb.decodeWith, if_neg hk, if_neg hk, lowMask_eq_ok, ok_bind, hi]
    split
    · rfl
    · by_cases hc : (g ref k shift).contains ((g ref k shift).candidate bits k) = true
      · rw [if_pos hc]
        exact if_pos hc
      · rw [if_neg hc]
        exact if_neg hc

end WindowedLsb.Checked
