import Mathlib.Data.Int.ModEq
import WindowedLsb.Interval

/-!
Words as integers: their order, the residue that the low bits are, and the signed reading.
-/

namespace WindowedLsb

instance instLawfulOrderMaxUInt32 : Std.LawfulOrderMax UInt32 where
  max_eq_or a b := by
    simp only [max]
    split <;> simp
  max_le_iff a b c := by
    simp only [max, UInt32.le_iff_toNat_le]
    split <;> omega

/-! ## Low bits -/

variable {k : UInt8}

theorem toNat_le_of_le_wordBits (hk : k ≤ wordBits) : k.toNat ≤ 32 := UInt8.le_iff_toNat_le.mp hk

theorem toNat_lowMask (hk : k ≤ wordBits) : (lowMask k).toNat = 2 ^ k.toNat - 1 := by
  have hn := toNat_le_of_le_wordBits hk
  by_cases he : k = wordBits
  · subst he
    rfl
  · have hlt : k.toNat < 32 := by
      have hne : k.toNat ≠ wordBits.toNat := fun h => he (UInt8.toNat_inj.mp h)
      have h32 : wordBits.toNat = 32 := rfl
      omega
    have hpow : 2 ^ k.toNat < 2 ^ 32 := Nat.pow_lt_pow_right (by decide) hlt
    have hshift : (1 <<< k.toUInt32 : UInt32).toNat = 2 ^ k.toNat := by
      rw [UInt32.toNat_shiftLeft, UInt8.toNat_toUInt32, Nat.mod_eq_of_lt hlt, UInt32.toNat_one,
        Nat.shiftLeft_eq, Nat.one_mul, Nat.mod_eq_of_lt hpow]
    have hge : ¬k ≥ wordBits := fun h => he (UInt8.le_antisymm hk h)
    have hpos : 0 < 2 ^ k.toNat := Nat.two_pow_pos _
    have hone : (1 : UInt32) ≤ 1 <<< k.toUInt32 := by
      rw [UInt32.le_iff_toNat_le, hshift]
      exact hpos
    rw [lowMask, if_neg hge, UInt32.toNat_sub_of_le _ _ hone, hshift]
    rfl

theorem cast_toNat_lowMask (hk : k ≤ wordBits) : ((lowMask k).toNat : Int) = 2 ^ k.toNat - 1 := by
  rw [toNat_lowMask hk, Nat.cast_sub (Nat.two_pow_pos _)]
  push_cast
  rfl

theorem toNat_and_lowMask (hk : k ≤ wordBits) (x : UInt32) :
    (x &&& lowMask k).toNat = x.toNat % 2 ^ k.toNat := by
  rw [UInt32.toNat_and, toNat_lowMask hk, Nat.and_two_pow_sub_one_eq_mod]

/-- The bits inside a mask and those outside it make up the word. -/
theorem and_or_and_not (x m : UInt32) : (x &&& m) ||| (x &&& ~~~m) = x := by
  rw [← UInt32.toBitVec_inj, UInt32.toBitVec_or, UInt32.toBitVec_and, UInt32.toBitVec_and,
    ← BitVec.and_or_distrib_left, ← UInt32.toBitVec_or, UInt32.or_not_self, ← UInt32.toBitVec_and,
    UInt32.and_neg_one]

/-- Subtraction of words is subtraction of integers up to multiples of every smaller power of two. -/
theorem toNat_sub_modEq {n : Nat} (hn : n ≤ 32) (x y : UInt32) :
    ((x - y).toNat : Int) ≡ x.toNat - y.toNat [ZMOD 2 ^ n] := by
  have hd : (2 ^ n : Int) ∣ 2 ^ 32 := pow_dvd_pow 2 hn
  refine Int.ModEq.of_dvd hd ?_
  have hx := x.toNat_lt
  have hy := y.toNat_lt
  rw [Int.ModEq, UInt32.toNat_sub]
  omega

/-- Words agree in their low bits exactly when their distances from a third word do. -/
theorem toNat_sub_modEq_sub_iff {n : Nat} (hn : n ≤ 32) (x y z : UInt32) :
    (x - z).toNat ≡ (y - z).toNat [MOD 2 ^ n] ↔ x.toNat ≡ y.toNat [MOD 2 ^ n] := by
  have hx := toNat_sub_modEq hn x z
  have hy := toNat_sub_modEq hn y z
  rw [← Int.natCast_modEq_iff, ← Int.natCast_modEq_iff]
  push_cast
  constructor
  · intro h
    exact Int.ModEq.add_right_cancel' (-(z.toNat : Int)) ((hx.symm.trans h).trans hy)
  · intro h
    exact (hx.trans (h.sub_right _)).trans hy.symm

/-! ## The signed reading -/

theorem toInt_toInt32 (x : UInt32) :
    x.toInt32.toInt = if x.toNat < 2 ^ 31 then (x.toNat : Int) else x.toNat - 2 ^ 32 := by
  have h : x.toInt32.toInt = x.toBitVec.toInt := rfl
  have hn : x.toBitVec.toNat = x.toNat := rfl
  rw [h, BitVec.toInt_eq_toNat_cond, hn]
  split <;> split <;> omega

/-- A number that fits the signed reading is read back. -/
theorem toInt_toInt32_ofInt {n : Int} (hlo : -2 ^ 31 ≤ n) (hhi : n < 2 ^ 31) :
    (UInt32.ofInt n).toInt32.toInt = n := by
  rw [toInt_toInt32, UInt32.ofInt, UInt32.toNat_ofNat']
  split <;> omega

end WindowedLsb
