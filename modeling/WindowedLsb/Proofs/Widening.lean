import Mathlib.Algebra.Order.Ring.Int
import Mathlib.Tactic.Positivity
import WindowedLsb.Proofs.Containment

/-!
The standard interval as the width grows. It takes in new words at its ends and gives none up, but for
one word in one case: the sequence number rule tolerates a step of reordering up to four bits and none
at five.
-/

namespace WindowedLsb

variable {k k' : UInt8} {shift : Shift} {ref v : UInt32}

/-! ## Both ends -/

namespace Shift

/-- From `k` to `k'` bits the interval around a reference moves neither end inwards. -/
structure Widens (shift : Shift) (k k' : UInt8) : Prop where
  below : shift.offset k ≤ shift.offset k'
  above : 2 ^ k.toNat - shift.offset k ≤ 2 ^ k'.toNat - shift.offset k'

theorem Widens.trans {m : UInt8} (h : shift.Widens k m) (h' : shift.Widens m k') :
    shift.Widens k k' where
  below := h.below.trans h'.below
  above := h.above.trans h'.above

/-- A shift that stays as it is leaves the lower end in place. -/
theorem Widens.of_offset_eq (hle : k ≤ k') (heq : shift.offset k = shift.offset k') :
    shift.Widens k k' where
  below := heq.le
  above := by
    have hpow : (2 : Int) ^ k.toNat ≤ 2 ^ k'.toNat :=
      pow_le_pow_right₀ (by decide) (UInt8.le_iff_toNat_le.mp hle)
    omega

/-- A shift that is a fixed part of the interval grows with it, and so does the rest. -/
theorem Widens.of_offset_eq_two_pow {d : Nat} (hd : d ≤ k.toNat) (hle : k ≤ k')
    (hk : shift.offset k = 2 ^ (k.toNat - d) - 1)
    (hk' : shift.offset k' = 2 ^ (k'.toNat - d) - 1) : shift.Widens k k' := by
  rw [UInt8.le_iff_toNat_le] at hle
  have hsplit : ∀ n, d ≤ n → (2 : Int) ^ n - 2 ^ (n - d) = 2 ^ (n - d) * (2 ^ d - 1) := by
    intro n hn
    rw [mul_sub, ← pow_add, Nat.sub_add_cancel hn, mul_one]
  have hpow : (2 : Int) ^ (k.toNat - d) ≤ 2 ^ (k'.toNat - d) :=
    pow_le_pow_right₀ (by decide) (by omega)
  have hpos : (0 : Int) < 2 ^ d := by positivity
  have hrest : (2 : Int) ^ k.toNat - 2 ^ (k.toNat - d) ≤ 2 ^ k'.toNat - 2 ^ (k'.toNat - d) := by
    rw [hsplit _ hd, hsplit _ (hd.trans hle)]
    exact mul_le_mul_of_nonneg_right hpow (by omega)
  constructor
  · rw [hk, hk']
    omega
  · rw [hk, hk']
    omega

/-! ## The rules for each field -/

theorem cast_twoPow (j : Nat) : (twoPow j : Int) = 2 ^ j := Nat.cast_pow 2 j

theorem offset_sequenceNumber_small (hk : k ≤ 4) : rtpSequenceNumber.offset k = 1 := if_pos hk

theorem offset_sequenceNumber_large (hk : 5 ≤ k) :
    rtpSequenceNumber.offset k = 2 ^ (k.toNat - 5) - 1 := by
  have hnot : ¬k ≤ sequenceNumberSmallWidth :=
    UInt8.not_le.mpr (UInt8.lt_of_lt_of_le (by decide) hk)
  rw [offset, if_neg hnot, cast_twoPow]

theorem offset_timestamp_small (hk : k ≤ 2) : rtpTimestamp.offset k = 0 := if_pos hk

theorem offset_timestamp_large (hk : 2 ≤ k) :
    rtpTimestamp.offset k = 2 ^ (k.toNat - 2) - 1 := by
  by_cases he : k ≤ timestampSmallWidth
  · obtain rfl := UInt8.le_antisymm he hk
    rfl
  · rw [offset, if_neg he, cast_twoPow]

/-- The step of reordering that the sequence number rule tolerates at small widths is lost at five
bits, and only there. -/
def LosesStep (shift : Shift) (k k' : UInt8) : Prop :=
  shift = rtpSequenceNumber ∧ k ≤ 4 ∧ k' = 5

instance : Decidable (shift.LosesStep k k') := inferInstanceAs (Decidable (_ ∧ _ ∧ _))

theorem widens (hlt : k < k') (h : ¬shift.LosesStep k k') : shift.Widens k k' := by
  have hle := UInt8.le_of_lt hlt
  cases shift with
  | fixed p => exact .of_offset_eq hle rfl
  | rtpSequenceNumber =>
    by_cases hk : 5 ≤ k
    · exact .of_offset_eq_two_pow (UInt8.le_iff_toNat_le.mp hk) hle (offset_sequenceNumber_large hk)
        (offset_sequenceNumber_large (UInt8.le_trans hk hle))
    · have hsmall : k ≤ 4 := by grind
      by_cases hk' : k' ≤ 4
      · exact .of_offset_eq hle ((offset_sequenceNumber_small hsmall).trans
          (offset_sequenceNumber_small hk').symm)
      · -- At six bits one step is tolerated again, and more beyond that.
        have hne : k' ≠ 5 := fun he => h ⟨rfl, hsmall, he⟩
        have h6 : 6 ≤ k' := by grind
        have hstep : rtpSequenceNumber.Widens k 6 :=
          .of_offset_eq (UInt8.le_trans hsmall (by decide)) (offset_sequenceNumber_small hsmall)
        exact hstep.trans (.of_offset_eq_two_pow (by decide) h6 rfl
          (offset_sequenceNumber_large (UInt8.le_trans (by decide) h6)))
  | rtpTimestamp =>
    by_cases hk : 2 ≤ k
    · exact .of_offset_eq_two_pow (UInt8.le_iff_toNat_le.mp hk) hle (offset_timestamp_large hk)
        (offset_timestamp_large (UInt8.le_trans hk hle))
    · have hsmall : k ≤ 2 := UInt8.le_of_lt (UInt8.not_le.mp hk)
      by_cases hk' : k' ≤ 2
      · exact .of_offset_eq hle ((offset_timestamp_small hsmall).trans
          (offset_timestamp_small hk').symm)
      · have hlarge : 2 ≤ k' := UInt8.le_of_lt (UInt8.not_le.mp hk')
        have hstep : rtpTimestamp.Widens k 2 :=
          .of_offset_eq hsmall (offset_timestamp_small hsmall)
        exact hstep.trans (.of_offset_eq_two_pow (by decide) hlarge rfl
          (offset_timestamp_large hlarge))

end Shift

/-! ## Members -/

/-- The words that may be sent in `k` bits. -/
def standardMembers (ref : UInt32) (k : UInt8) (shift : Shift) : Set UInt32 :=
  {v | (standardInterval ref k shift).contains v = true}

theorem mem_standardMembers_iff (hk : k ≤ wordBits) : v ∈ standardMembers ref k shift ↔
    ((v.toNat : Int) - (ref.toNat - shift.offset k)) % 2 ^ 32 < 2 ^ k.toNat :=
  contains_standardInterval_iff hk

theorem Shift.Widens.subset (h : shift.Widens k k') (hk : k ≤ wordBits) (hk' : k' ≤ wordBits)
    (ref : UInt32) : standardMembers ref k shift ⊆ standardMembers ref k' shift := by
  have hword : (2 : Int) ^ k'.toNat ≤ 2 ^ 32 :=
    pow_le_pow_right₀ (by decide) (toNat_le_of_le_wordBits hk')
  have hbelow := h.below
  have habove := h.above
  intro v hv
  rw [mem_standardMembers_iff hk] at hv
  rw [mem_standardMembers_iff hk']
  omega

/-- Where the step of reordering is lost, the word below the reference is, and no other. -/
theorem Shift.LosesStep.diff_eq (h : shift.LosesStep k k') (ref : UInt32) :
    standardMembers ref k shift \ standardMembers ref k' shift = {ref - 1} := by
  obtain ⟨rfl, hk, rfl⟩ := h
  have hle : (2 : Int) ^ k.toNat ≤ 2 ^ 4 :=
    pow_le_pow_right₀ (by decide) (UInt8.le_iff_toNat_le.mp hk)
  have hpos : (0 : Int) < 2 ^ k.toNat := by positivity
  have h5 : rtpSequenceNumber.offset 5 = 0 := rfl
  have h32 : (2 : Int) ^ (5 : UInt8).toNat = 32 := rfl
  ext v
  have hv := v.toNat_lt
  have href := ref.toNat_lt
  rw [Set.mem_sdiff, mem_standardMembers_iff (UInt8.le_trans hk (by decide)),
    mem_standardMembers_iff (by decide), offset_sequenceNumber_small hk, h5, h32,
    Set.mem_singleton_iff, ← UInt32.toNat_inj, UInt32.toNat_sub, UInt32.toNat_one]
  omega

/-- A value that fits some width fits every larger one, for every reference and under every shift, with
one exception: under the sequence number rule, from four bits or fewer to five, just the word below the
reference is lost. -/
theorem standardMembers_nested (hlt : k < k') (hk' : k' ≤ wordBits) (ref : UInt32) (shift : Shift) :
    (¬shift.LosesStep k k' → standardMembers ref k shift ⊆ standardMembers ref k' shift) ∧
      (shift.LosesStep k k' →
        standardMembers ref k shift \ standardMembers ref k' shift = {ref - 1}) := by
  have hk : k ≤ wordBits := UInt8.le_trans (UInt8.le_of_lt hlt) hk'
  exact ⟨fun h => (Shift.widens hlt h).subset hk hk' ref, fun h => h.diff_eq ref⟩

/-- From the reference zero the word lost at five bits is the largest one. At six it is back. -/
theorem standardMembers_nested_below_zero :
    standardMembers 0 4 .rtpSequenceNumber \ standardMembers 0 5 .rtpSequenceNumber = {0xffffffff} ∧
      standardMembers 0 4 .rtpSequenceNumber ⊆ standardMembers 0 6 .rtpSequenceNumber :=
  ⟨(standardMembers_nested (by decide) (by decide) 0 .rtpSequenceNumber).2 (by decide),
    (standardMembers_nested (by decide) (by decide) 0 .rtpSequenceNumber).1 (by decide)⟩

end WindowedLsb
