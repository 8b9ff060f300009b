import Mathlib.Data.Int.ConditionallyCompleteOrder
import WindowedLsb.Proofs.Decoding
import WindowedLsb.Proofs.Width

/-!
The two tests of membership. One counts words modulo `2^32`; the other lays the interval out over the
integers around a reference and takes a word as the integer it is. The first is the second with any
number of turns of the word added, so that what the width search accepts the decoder finds.
-/

namespace WindowedLsb

theorem toNat_sub_eq_emod (x y : UInt32) :
    ((x - y).toNat : Int) = ((x.toNat : Int) - y.toNat) % 2 ^ 32 := by
  have hx := x.toNat_lt
  have hy := y.toNat_lt
  rw [UInt32.toNat_sub]
  omega

/-- A number comes into a range by turns exactly if its distance from the start, less whole turns, is no
more than the length of the range. -/
theorem exists_turns_mem_Icc_iff {a d v : Int} :
    (∃ j : Int, v + j * 2 ^ 32 ∈ Set.Icc a (a + d)) ↔ (v - a) % 2 ^ 32 ≤ d := by
  simp only [Set.mem_Icc]
  constructor
  · rintro ⟨j, hlo, hhi⟩
    omega
  · intro hd
    exact ⟨-((v - a) / 2 ^ 32), by omega, by omega⟩

namespace Interval

variable {i : Interval} {ref v : UInt32}

/-- The integers of the interval if its first member stands for `first`. -/
def layout (i : Interval) (first : Int) : Set Int :=
  Set.Icc first (first + ((i.hi.toNat : Int) - i.lo.toNat) % 2 ^ 32)

theorem contains_iff_emod : i.contains v = true ↔
    ((v.toNat : Int) - i.lo.toNat) % 2 ^ 32 ≤ ((i.hi.toNat : Int) - i.lo.toNat) % 2 ^ 32 := by
  rw [contains_iff, ← toNat_sub_eq_emod, ← toNat_sub_eq_emod, Int.ofNat_le, reach]

theorem covers_iff_mem_layout :
    i.covers ref v = true ↔ (v.toNat : Int) ∈ i.layout (i.start ref) := by
  rw [covers_iff, layout, Set.mem_Icc, ← toNat_sub_eq_emod, reach]

/-- Wherever the first member is laid out among the integers it stands for, the members are the words
that come into the layout by turns. -/
theorem contains_iff_exists_turns {first : Int} (hfirst : first ≡ i.lo.toNat [ZMOD 2 ^ 32]) :
    i.contains v = true ↔ ∃ j : Int, (v.toNat : Int) + j * 2 ^ 32 ∈ i.layout first := by
  have hmod : ((v.toNat : Int) - first) % 2 ^ 32 = ((v.toNat : Int) - i.lo.toNat) % 2 ^ 32 :=
    hfirst.sub_left _
  rw [contains_iff_emod, layout, exists_turns_mem_Icc_iff, hmod]

/-- The candidate is met no later than any member with the same low bits. -/
theorem contains_candidate_of_contains {bits : UInt32} {k : UInt8} (hk : k ≤ wordBits)
    (hc : i.contains v = true) (hv : v.toNat ≡ bits.toNat [MOD 2 ^ k.toNat]) :
    i.contains (i.candidate bits k) = true := by
  rw [contains_iff] at hc ⊢
  rw [toNat_candidate_sub_lo hk i hv]
  exact le_trans (Nat.mod_le _ _) hc

end Interval

/-! ## The standard interval -/

/-- The members of the standard interval are the `2 ^ k` words from the one `offset` below the reference
on, counted modulo `2^32`. -/
theorem contains_standardInterval_iff {k : UInt8} {shift : Shift} {ref v : UInt32}
    (hk : k ≤ wordBits) : (standardInterval ref k shift).contains v = true ↔
      ((v.toNat : Int) - (ref.toNat - shift.offset k)) % 2 ^ 32 < 2 ^ k.toNat := by
  have hpos : (0 : Int) < 2 ^ k.toNat := by exact_mod_cast Nat.two_pow_pos _
  have hlo : ((standardInterval ref k shift).lo.toNat : Int) =
      ((ref.toNat : Int) - shift.offset k) % 2 ^ 32 := by
    rw [standardInterval, toNat_sub_eq_emod, UInt32.ofInt, UInt32.toNat_ofNat']
    omega
  rw [Interval.contains_iff, IntervalFunction.standardInterval_reach, ← Int.ofNat_le,
    cast_toNat_lowMask hk, toNat_sub_eq_emod, hlo]
  omega

/-- Over the integers the standard interval goes from `reference - p` through `reference - p + 2 ^ k - 1`,
where `p` is the shift at `k` bits. Its start is reckoned in words that wrap, and yet the signed distance
from it to the reference is `p` again, whichever way and however far it shifts. A word passes without
wrapping exactly if it lies between these integers, and is a member exactly if it is fewer than `2 ^ k`
steps up from the first of them, modulo `2^32`. -/
theorem standardInterval_over_integers {k : UInt8} (hk : k ≤ wordBits) (ref : UInt32) (shift : Shift) :
    let p := shift.offset k
    let i := standardInterval ref k shift
    (ref - i.lo).toInt32.toInt = p ∧
    ∀ v : UInt32,
      (i.covers ref v = true ↔
        (ref.toNat : Int) - p ≤ v.toNat ∧ (v.toNat : Int) ≤ ref.toNat - p + 2 ^ k.toNat - 1) ∧
      (i.contains v = true ↔ ((v.toNat : Int) - (ref.toNat - p)) % 2 ^ 32 < 2 ^ k.toNat) := by
  intro p i
  refine ⟨toInt_sub_lo_standardInterval hk ref shift, fun v => ⟨?_, contains_standardInterval_iff hk⟩⟩
  rw [covers_standardInterval_iff hk, add_sub_assoc]

/-- The furthest shift upwards, at full width: the range starts at `7 + 2 ^ 31`, so that it lies above the
word 5, and all the same it has 5 as a member one turn later. -/
theorem standardInterval_over_integers_full_width :
    let i := standardInterval 7 32 (.fixed Int32.minValue)
    (7 - i.lo).toInt32.toInt = -2147483648 ∧ i.covers 7 0x80000007 = true ∧
      i.covers 7 5 = false ∧ i.contains 5 = true := by
  obtain ⟨hp, hv⟩ := standardInterval_over_integers (k := 32) (by decide) 7 (.fixed Int32.minValue)
  exact ⟨hp, (hv 0x80000007).1.mpr (by decide), Bool.eq_false_iff.mpr ((hv 5).1.not.mpr (by decide)),
    (hv 5).2.mpr (by decide)⟩

/-! ## What the search accepts -/

/-- What some reference covers at some width is sent and read back at that width against it. -/
theorem Window.decodes_of_covers {w : Window} {ref v : UInt32} {k : UInt8} (hk : k ≤ wordBits)
    (hc : w.covers ref k v = true) :
    ∃ bits u, encode v k = .ok bits ∧ decodeWith w.interval bits ref k w.shift = .ok u ∧
      u.toNat ≡ v.toNat [MOD 2 ^ k.toNat] := by
  have hv := and_lowMask_modEq hk v
  have hmem := Interval.contains_candidate_of_contains hk (Interval.contains_of_covers hc) hv
  refine ⟨v &&& lowMask k, (w.interval ref k w.shift).candidate (v &&& lowMask k) k,
    encode_eq hk v, ?_, (Interval.candidate_modEq hk _ _).trans hv.symm⟩
  rw [decodeWith_eq hk (and_lowMask_and_not v k), if_pos hmem]

/-- The two tests agree up to wrapping round. With `s` the distance from the start of the interval up to
the reference, read as a signed word, a word is a member modulo `2^32` exactly if by some number of
turns it comes into the range of integers from `reference - s` on, and passes without wrapping exactly
if it does so by none. What passes without wrapping is therefore a member, and no width at which the
search finds a value covered is refused by the decoder. -/
theorem contains_and_covers_agree_up_to_turns :
    (∀ (i : Interval) (ref : UInt32), ∃ s : Int,
      (-2 ^ 31 ≤ s ∧ s < 2 ^ 31 ∧ s ≡ ref.toNat - i.lo.toNat [ZMOD 2 ^ 32]) ∧
      ∀ v : UInt32,
        (i.contains v = true ↔ ∃ j : Int, (v.toNat : Int) + j * 2 ^ 32 ∈ i.layout (ref.toNat - s)) ∧
        (i.covers ref v = true ↔ (v.toNat : Int) ∈ i.layout (ref.toNat - s)) ∧
        (i.covers ref v = true → i.contains v = true)) ∧
    ∀ (w : Window) (ref v : UInt32) (k : UInt8), k ≤ wordBits → w.covers ref k v = true →
      ∃ bits u, encode v k = .ok bits ∧ decodeWith w.interval bits ref k w.shift = .ok u ∧
        u.toNat ≡ v.toNat [MOD 2 ^ k.toNat] := by
  refine ⟨fun i ref => ?_, fun w ref v k hk hc => Window.decodes_of_covers hk hc⟩
  have hmod : (ref - i.lo).toInt32.toInt ≡ ref.toNat - i.lo.toNat [ZMOD 2 ^ 32] := by
    have hsub := toNat_sub_eq_emod ref i.lo
    rw [toInt_toInt32, Int.ModEq]
    split <;> omega
  have hfirst : (ref.toNat : Int) - (ref - i.lo).toInt32.toInt ≡ i.lo.toNat [ZMOD 2 ^ 32] := by
    simpa using hmod.sub_left (ref.toNat : Int)
  exact ⟨(ref - i.lo).toInt32.toInt, ⟨Int32.le_toInt _, Int32.toInt_lt _, hmod⟩, fun v =>
    ⟨Interval.contains_iff_exists_turns hfirst, Interval.covers_iff_mem_layout,
      Interval.contains_of_covers⟩⟩

/-- The interval from three below zero to twelve around the reference zero. The largest word is in it by
one turn back, but not as the integer it is, whereas twelve is. -/
theorem contains_and_covers_agree_up_to_turns_below_zero :
    (∃ s : Int, (-2 ^ 31 ≤ s ∧ s < 2 ^ 31 ∧ s ≡ 3 [ZMOD 2 ^ 32]) ∧
      (∃ j : Int, (0xffffffff : Int) + j * 2 ^ 32 ∈ Interval.layout ⟨0xfffffffd, 12⟩ (0 - s)) ∧
      (0xffffffff : Int) ∉ Interval.layout ⟨0xfffffffd, 12⟩ (0 - s)) ∧
    ∃ bits u, encode 12 4 = .ok bits ∧
      decodeWith (tableInterval [(-3, 12)]) bits 0 4 (.fixed 0) = .ok u ∧
      u.toNat ≡ 12 [MOD 2 ^ 4] := by
  obtain ⟨tests, decodes⟩ := contains_and_covers_agree_up_to_turns
  obtain ⟨s, ⟨hlo, hhi, hmod⟩, hs⟩ := tests ⟨0xfffffffd, 12⟩ 0
  obtain ⟨hcontains, hcovers, -⟩ := hs 0xffffffff
  refine ⟨⟨s, ⟨hlo, hhi, hmod.trans (by decide)⟩, hcontains.mp (by decide), ?_⟩, ?_⟩
  · exact hcovers.not.mp (by decide)
  · exact decodes ⟨.empty 1, 8, .fixed 0, tableInterval [(-3, 12)]⟩ 0 12 4 (by decide) (by decide)

end WindowedLsb
