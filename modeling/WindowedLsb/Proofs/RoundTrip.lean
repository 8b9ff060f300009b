import WindowedLsb.Proofs.Coding
import WindowedLsb.Proofs.Width

/-!
What the sender codes at the width it finds is read back the same against every reference it holds.
-/

namespace WindowedLsb.Window

variable {w : Window} {k : UInt8} {ref v : UInt32}

/-- An interval with one word for each pattern of low bits lets any value be read as its one member
that ends in the same bits. -/
theorem decodeWith_encoded_member (hf : w.interval.Regular w.shift) (hk : k ≤ wordBits)
    (ref v : UInt32) :
    ∃ u, decodeWith w.interval (v &&& lowMask k) ref k w.shift = .ok u ∧
      u.toNat ≡ v.toNat [MOD 2 ^ k.toNat] ∧ (w.interval ref k w.shift).contains u = true ∧
      ∀ x, (w.interval ref k w.shift).contains x = true →
        x.toNat ≡ v.toNat [MOD 2 ^ k.toNat] → u = x := by
  have hr := hf.reach_eq k hk ref
  have hv := and_lowMask_modEq hk v
  have hc := Interval.contains_candidate hk hr (v &&& lowMask k)
  refine ⟨(w.interval ref k w.shift).candidate (v &&& lowMask k) k, ?_, ?_, hc, ?_⟩
  · rw [decodeWith_eq hk (and_lowMask_and_not v k), if_pos hc]
  · exact (Interval.candidate_modEq hk _ _).trans hv.symm
  · intro x hx hxv
    exact Interval.candidate_eq_of_contains hk hr hx (hxv.trans hv)

/-- It is read as the value itself if that lies in the interval. -/
theorem decodeWith_encoded (hf : w.interval.Regular w.shift) (hk : k ≤ wordBits) (ref v : UInt32) :
    ∃ u, decodeWith w.interval (v &&& lowMask k) ref k w.shift = .ok u ∧
      u.toNat ≡ v.toNat [MOD 2 ^ k.toNat] ∧ (w.covers ref k v = true → u = v) := by
  obtain ⟨u, hu, hmod, -, honly⟩ := decodeWith_encoded_member hf hk ref v
  exact ⟨u, hu, hmod, fun hc => honly v (Interval.contains_of_covers hc) (Nat.ModEq.refl _)⟩

/-- A window that holds references finds a width, no more than that of the field, and whichever of the
references the receiver uses, the bits sent at that width are read as the value up to multiples of
`2 ^ maxBits`, and as the value itself at less than the full width. The standard interval gives such
windows under every shift. -/
theorem decode_encode_at_width : (∀ shift, standardInterval.Regular shift) ∧
    ∀ w : Window, w.Reachable → w.interval.Regular w.shift → w.ring.isEmpty = false →
      ∀ v : UInt32, ∃ k bits, w.width? v = .ok k ∧ k ≤ w.maxBits ∧ encode v k = .ok bits ∧
        ∀ s ∈ w.ring.held, ∃ u, decodeWith w.interval bits s.value k w.shift = .ok u ∧
          u.toNat ≡ v.toNat [MOD 2 ^ w.maxBits.toNat] ∧ (k < w.maxBits → u = v) := by
  refine ⟨IntervalFunction.standardInterval_regular, fun w h hf hempty v => ?_⟩
  have hne : w.ring.held ≠ [] := h.holds.isEmpty_iff.not.mp (Bool.eq_false_iff.mp hempty)
  have hmax := h.maxBits_range.2
  obtain ⟨hwidth, hfirst⟩ := h.width?_eq_ok
    (fun k hk => hf.uniformAt (UInt8.le_trans (UInt8.le_of_lt hk) hmax)) hne v
  have hk := UInt8.le_trans hfirst.le hmax
  refine ⟨w.requiredBits v, v &&& lowMask (w.requiredBits v), hwidth, hfirst.le, encode_eq hk v, ?_⟩
  intro s hs
  obtain ⟨u, hu, hmod, heq⟩ := decodeWith_encoded hf hk s.value v
  by_cases hlt : w.requiredBits v < w.maxBits
  · have huv := heq (hfirst.enough_of_lt hlt s hs)
    exact ⟨u, hu, huv ▸ Nat.ModEq.refl _, fun _ => huv⟩
  · have hfull : w.requiredBits v = w.maxBits :=
      UInt8.le_antisymm hfirst.le (UInt8.not_lt.mp hlt)
    exact ⟨u, hu, hfull ▸ hmod, fun h => absurd h hlt⟩

/-- Three references on both sides of the wrap to zero, of which the last one inserted is neither the
smallest nor the largest, and a value that needs the full width. -/
theorem decode_encode_at_width_across_wrap : ∃ w : Window, w.Reachable ∧
    w.interval.Regular w.shift ∧ w.ring.isEmpty = false ∧
    ∃ k bits, w.width? 3 = .ok k ∧ k ≤ w.maxBits ∧ encode 3 k = .ok bits ∧
      ∀ s ∈ w.ring.held, ∃ u, decodeWith w.interval bits s.value k w.shift = .ok u ∧
        u.toNat ≡ 3 [MOD 2 ^ w.maxBits.toNat] ∧ (k < w.maxBits → u = 3) := by
  have hw := create_ample 16 3 (.fixed Int32.minValue) standardInterval (by decide) (by decide)
  have h := (Reachable.start hw).run
    [.insert (.ofNat _ 65535) 65535, .insert (.ofNat _ 0) 0, .insert (.ofNat _ 1) 1]
  have hf := decode_encode_at_width.1 (.fixed Int32.minValue)
  have he := Bool.eq_false_iff.mpr (h.holds.isEmpty_iff.not.mpr (by decide))
  exact ⟨_, h, hf, he, decode_encode_at_width.2 _ h hf he 3⟩

end WindowedLsb.Window
