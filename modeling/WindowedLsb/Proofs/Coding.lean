import WindowedLsb.Coding
import WindowedLsb.Proofs.Interval

/-!
Decoding finds the first word, going up from the start of the interval, that ends in the bits
received.
-/

namespace WindowedLsb

variable {i : Interval} {bits v ref : UInt32} {k : UInt8} {f : IntervalFunction} {shift : Shift}

theorem encode_eq (hk : k ≤ wordBits) (v : UInt32) : encode v k = .ok (v &&& lowMask k) :=
  if_neg (UInt8.not_lt.mpr hk)

theorem and_lowMask_modEq (hk : k ≤ wordBits) (v : UInt32) :
    v.toNat ≡ (v &&& lowMask k).toNat [MOD 2 ^ k.toNat] := by
  rw [toNat_and_lowMask hk]
  exact (Nat.mod_modEq _ _).symm

namespace Interval

theorem candidate_sub_lo (i : Interval) (bits : UInt32) (k : UInt8) :
    i.candidate bits k - i.lo = (bits - i.lo) &&& lowMask k := by
  rw [candidate, UInt32.add_comm, UInt32.add_sub_cancel]

/-- The candidate is no further up than any word with the same low bits. -/
theorem toNat_candidate_sub_lo (hk : k ≤ wordBits) (i : Interval)
    (hv : v.toNat ≡ bits.toNat [MOD 2 ^ k.toNat]) :
    (i.candidate bits k - i.lo).toNat = (v - i.lo).toNat % 2 ^ k.toNat := by
  have hsub := (toNat_sub_modEq_sub_iff (toNat_le_of_le_wordBits hk) v bits i.lo).mpr hv
  rw [candidate_sub_lo, toNat_and_lowMask hk]
  exact hsub.symm

theorem candidate_modEq (hk : k ≤ wordBits) (i : Interval) (bits : UInt32) :
    (i.candidate bits k).toNat ≡ bits.toNat [MOD 2 ^ k.toNat] := by
  rw [← toNat_sub_modEq_sub_iff (toNat_le_of_le_wordBits hk) _ _ i.lo, candidate_sub_lo]
  exact (and_lowMask_modEq hk _).symm

/-- An interval that holds a word for each pattern of low bits holds the candidate. -/
theorem contains_candidate (hk : k ≤ wordBits) (hr : i.reach.toNat = 2 ^ k.toNat - 1)
    (bits : UInt32) : i.contains (i.candidate bits k) = true := by
  have hlt := Nat.mod_lt (bits - i.lo).toNat (Nat.two_pow_pos k.toNat)
  rw [contains_iff, hr, toNat_candidate_sub_lo hk i (Nat.ModEq.refl _)]
  omega

/-- Such an interval has no other member that ends in the bits. -/
theorem candidate_eq_of_contains (hk : k ≤ wordBits) (hr : i.reach.toNat = 2 ^ k.toNat - 1)
    (hc : i.contains v = true) (hv : v.toNat ≡ bits.toNat [MOD 2 ^ k.toNat]) :
    i.candidate bits k = v := by
  have hpos := Nat.two_pow_pos k.toNat
  rw [contains_iff, hr] at hc
  have hd := toNat_candidate_sub_lo hk i hv
  rw [Nat.mod_eq_of_lt (by omega)] at hd
  have hsub : i.candidate bits k - i.lo = v - i.lo := UInt32.toNat_inj.mp hd
  rw [← UInt32.sub_add_cancel (i.candidate bits k) i.lo, hsub, UInt32.sub_add_cancel]

end Interval

theorem decodeWith_eq (hk : k ≤ wordBits) (hb : bits &&& ~~~lowMask k = 0) :
    decodeWith f bits ref k shift =
      if (f ref k shift).contains ((f ref k shift).candidate bits k) then
        .ok ((f ref k shift).candidate bits k)
      else .error (CodingFault.unresolved (f ref k shift) bits ref k shift).toError := by
  rw [decodeWith, if_neg (UInt8.not_lt.mpr hk), if_neg (not_not_intro hb)]

theorem and_lowMask_and_not (v : UInt32) (k : UInt8) :
    (v &&& lowMask k) &&& ~~~lowMask k = 0 := by
  rw [UInt32.and_assoc, UInt32.and_not_self, UInt32.and_zero]

end WindowedLsb
