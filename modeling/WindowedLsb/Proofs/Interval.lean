import WindowedLsb.Proofs.Word

/-!
Membership with and without wrapping, and interval functions that treat all references alike.
-/

namespace WindowedLsb

/-! ## Membership -/

namespace Interval

variable {i : Interval} {ref v : UInt32}

theorem contains_iff : i.contains v = true ↔ (v - i.lo).toNat ≤ i.reach.toNat := by
  rw [contains, decide_eq_true_eq, UInt32.le_iff_toNat_le]

theorem covers_iff : i.covers ref v = true ↔
    i.start ref ≤ v.toNat ∧ (v.toNat : Int) ≤ i.start ref + i.reach.toNat := by
  rw [covers, decide_eq_true_eq]

/-- What lies in the interval without wrapping lies in it modulo `2^32`. -/
theorem contains_of_covers (h : i.covers ref v = true) : i.contains v = true := by
  obtain ⟨hlo, hhi⟩ := covers_iff.mp h
  have hs : i.start ref = ref.toNat - (ref - i.lo).toInt32.toInt := rfl
  have href := ref.toNat_lt
  have hreach := i.reach.toNat_lt
  rw [toInt_toInt32, UInt32.toNat_sub] at hs
  rw [contains_iff, UInt32.toNat_sub]
  split at hs <;> omega

end Interval

/-! ## Interval functions -/

namespace IntervalFunction

/-- At width `k` the intervals lie alike around all references. -/
structure UniformAt (f : IntervalFunction) (shift : Shift) (k : UInt8) : Prop where
  offset_eq : ∀ ref ref', (f ref k shift).lo - ref = (f ref' k shift).lo - ref'
  reach_eq : ∀ ref ref', (f ref k shift).reach = (f ref' k shift).reach

/-- The intervals move with the reference, at every width and under every shift. -/
def Equivariant (f : IntervalFunction) : Prop := ∀ shift k, f.UniformAt shift k

/-- The intervals of up to 32 bits move with the reference and hold one word for each pattern of low
bits. -/
structure Regular (f : IntervalFunction) (shift : Shift) : Prop where
  offset_eq : ∀ k ≤ wordBits, ∀ ref ref', (f ref k shift).lo - ref = (f ref' k shift).lo - ref'
  reach_eq : ∀ k ≤ wordBits, ∀ ref, (f ref k shift).reach.toNat = 2 ^ k.toNat - 1

variable {f : IntervalFunction} {shift : Shift} {k : UInt8}

theorem Regular.uniformAt (h : f.Regular shift) (hk : k ≤ wordBits) : f.UniformAt shift k where
  offset_eq := h.offset_eq k hk
  reach_eq ref ref' := UInt32.toNat_inj.mp ((h.reach_eq k hk ref).trans (h.reach_eq k hk ref').symm)

/-- Laid out without wrapping, the intervals of two references are one moved by their distance. -/
theorem UniformAt.start_eq (h : f.UniformAt shift k) (ref ref' : UInt32) :
    (f ref k shift).start ref = (f ref' k shift).start ref' + ref.toNat - ref'.toNat := by
  have hneg : ref - (f ref k shift).lo = ref' - (f ref' k shift).lo := by
    have ho := congrArg (fun x => -x) (h.offset_eq ref ref')
    simpa only [UInt32.neg_sub] using ho
  simp only [Interval.start, hneg]
  omega

/-- The references that cover a value lie next to each other. -/
theorem UniformAt.covers_between (h : f.UniformAt shift k) {a b ref v : UInt32}
    (ha : (f a k shift).covers a v = true) (hb : (f b k shift).covers b v = true)
    (hle : a ≤ ref) (hge : ref ≤ b) : (f ref k shift).covers ref v = true := by
  rw [Interval.covers_iff] at ha hb ⊢
  rw [UInt32.le_iff_toNat_le] at hle hge
  have hsa := h.start_eq ref a
  have hsb := h.start_eq ref b
  have hra := h.reach_eq ref a
  have hrb := h.reach_eq ref b
  rw [hra]
  rw [← hrb, hra] at hb
  omega

theorem standardInterval_offset (ref : UInt32) (k : UInt8) (shift : Shift) :
    (standardInterval ref k shift).lo - ref = -UInt32.ofInt (shift.offset k) := by
  simp only [standardInterval]
  grind

theorem standardInterval_reach (ref : UInt32) (k : UInt8) (shift : Shift) :
    (standardInterval ref k shift).reach = lowMask k := by
  simp only [standardInterval, Interval.reach]
  grind

theorem standardInterval_equivariant : Equivariant standardInterval := fun shift k => {
  offset_eq := fun ref ref' => by rw [standardInterval_offset, standardInterval_offset]
  reach_eq := fun ref ref' => by rw [standardInterval_reach, standardInterval_reach] }

theorem standardInterval_regular (shift : Shift) : Regular standardInterval shift where
  offset_eq k _ := (standardInterval_equivariant shift k).offset_eq
  reach_eq k hk ref := by rw [standardInterval_reach, toNat_lowMask hk]

end IntervalFunction

/-! ## The standard interval over the integers -/

variable {k : UInt8} {shift : Shift} {ref v : UInt32}

/-- At no width does a shift pass what a signed word can say. -/
theorem Shift.offset_range (hk : k ≤ wordBits) (shift : Shift) :
    -2 ^ 31 ≤ shift.offset k ∧ shift.offset k < 2 ^ 31 := by
  have hn := toNat_le_of_le_wordBits hk
  have hpow : ∀ j ≤ 30, (twoPow j : Int) ≤ 2 ^ 30 := fun j hj => by
    exact_mod_cast Nat.pow_le_pow_right (by decide) hj
  have hpos : ∀ j, (0 : Int) < twoPow j := fun j => by exact_mod_cast Nat.two_pow_pos j
  cases shift with
  | fixed p => exact ⟨p.le_toInt, p.toInt_lt⟩
  | rtpSequenceNumber =>
      have hle := hpow (k.toNat - 5) (by omega)
      have hgt := hpos (k.toNat - 5)
      simp only [offset]
      split <;> omega
  | rtpTimestamp =>
      have hle := hpow (k.toNat - 2) (by omega)
      have hgt := hpos (k.toNat - 2)
      simp only [offset]
      split <;> omega

/-- The signed distance from the start up to the reference is the shift again, no matter how it wrapped. -/
theorem toInt_sub_lo_standardInterval (hk : k ≤ wordBits) (ref : UInt32) (shift : Shift) :
    (ref - (standardInterval ref k shift).lo).toInt32.toInt = shift.offset k := by
  obtain ⟨hlo, hhi⟩ := shift.offset_range hk
  have hback : ref - (standardInterval ref k shift).lo = UInt32.ofInt (shift.offset k) := by
    simp only [standardInterval]
    grind
  rw [hback, toInt_toInt32_ofInt hlo hhi]

theorem start_standardInterval (hk : k ≤ wordBits) (ref : UInt32) (shift : Shift) :
    (standardInterval ref k shift).start ref = ref.toNat - shift.offset k := by
  rw [Interval.start, toInt_sub_lo_standardInterval hk]

theorem covers_standardInterval_iff (hk : k ≤ wordBits) :
    (standardInterval ref k shift).covers ref v = true ↔
      (ref.toNat : Int) - shift.offset k ≤ v.toNat ∧
        (v.toNat : Int) ≤ ref.toNat - shift.offset k + (2 ^ k.toNat - 1) := by
  rw [Interval.covers_iff, start_standardInterval hk, IntervalFunction.standardInterval_reach,
    cast_toNat_lowMask hk]

end WindowedLsb
