import WindowedLsb.Proofs.RoundTrip

/-!
The reference whose packet is acknowledged leaves the window with all older ones. A receiver that still
uses it reads a value right as long as its interval reaches that far, which the width found for the
references that stay does not always ensure.
-/

namespace WindowedLsb.Window

variable {w : Window} {sn : SequenceNumber} {s : Slot} {v : UInt32}

/-- A reference that alone has its packet number leaves behind those recorded after it. -/
theorem Reachable.held_acknowledge (h : w.Reachable) (hs : s ∈ w.ring.held)
    (hsn : s.number = sn.toWord) (honce : w.ring.held.countP (·.number == sn.toWord) = 1) :
    ∃ before, w.ring.held = before ++ s :: (w.act (.acknowledge sn)).ring.held := by
  obtain ⟨before, t, hheld, -, ht⟩ | ⟨hnone, -⟩ := h.holds.held_acknowledge_cases sn
  · change w.ring.held = before ++ t :: (w.act (.acknowledge sn)).ring.held at hheld
    generalize (w.act (.acknowledge sn)).ring.held = after at hheld ⊢
    rw [hheld, List.countP_append, List.countP_cons_of_pos (by simpa using ht)] at honce
    have hnot : ∀ x, x ∈ before ∨ x ∈ after → x.number ≠ sn.toWord := by
      intro x hx
      have hbefore : before.countP (·.number == sn.toWord) = 0 := by omega
      have hafter : after.countP (·.number == sn.toWord) = 0 := by omega
      rw [List.countP_eq_zero] at hbefore hafter
      rcases hx with hx | hx
      · simpa using hbefore x hx
      · simpa using hafter x hx
    have hst : s = t := by
      rw [hheld, List.mem_append, List.mem_cons] at hs
      rcases hs with hs | rfl | hs
      · exact absurd hsn (hnot s (.inl hs))
      · rfl
      · exact absurd hsn (hnot s (.inr hs))
    exact ⟨before, by rw [hst, ← hheld]⟩
  · exact absurd hsn (hnone s hs)

/-- Not every value sent is read right against the reference just acknowledged: at the width that the
reference 100 needs for itself, which is no bit at all, 10 is read as 10. -/
theorem not_decodes_against_acknowledged :
    ¬ ∀ w : Window, w.Reachable → w.interval = standardInterval →
      ∀ (sn : SequenceNumber), ∀ s ∈ w.ring.held, s.number = sn.toWord →
        w.ring.held.countP (·.number == sn.toWord) = 1 → ∀ v : UInt32,
          let k := (w.act (.acknowledge sn)).requiredBits v
          ∃ bits u, encode v k = .ok bits ∧ decode bits s.value k w.shift = .ok u ∧
            u.toNat ≡ v.toNat [MOD 2 ^ w.maxBits.toNat] := by
  intro hall
  have hw := create_ample 16 4 (.fixed 0) standardInterval (by decide) (by decide)
  have h := (Reachable.start hw).run [.insert (.ofNat _ 1) 10, .insert (.ofNat _ 2) 100]
  obtain ⟨bits, u, hbits, hu, hmod⟩ :=
    hall _ h rfl (.ofNat _ 1) ⟨1, 10, true⟩ (by decide) (by decide) (by decide) 100
  obtain rfl : 0 = bits := by
    have hencode : encode 100 0 = .ok 0 := rfl
    exact Except.ok.inj (hencode.symm.trans hbits)
  obtain rfl : 10 = u := by
    have hdecode : decode 0 10 0 (.fixed 0) = .ok 10 := rfl
    exact Except.ok.inj (hdecode.symm.trans hu)
  exact absurd hmod (by decide)

/-- What is sent behind an acknowledgment is read against the reference acknowledged as a value with
the same low bits. It is the value sent, up to multiples of `2 ^ maxBits`, if the interval of the
reference reaches one of these: so at the full width, which is that of a window left empty, so as long
as the acknowledgment does not lower the width, and so if the reference lies between two that stay. -/
theorem decode_against_acknowledged (h : w.Reachable) (hf : w.interval = standardInterval)
    (hs : s ∈ w.ring.held) (hsn : s.number = sn.toWord)
    (honce : w.ring.held.countP (·.number == sn.toWord) = 1) (v : UInt32) :
    let w' := w.act (.acknowledge sn)
    let k := w'.requiredBits v
    (∃ before, w.ring.held = before ++ s :: w'.ring.held) ∧
    (w'.ring.held = [] → k = w.maxBits) ∧
    ∃ bits u, encode v k = .ok bits ∧ decode bits s.value k w.shift = .ok u ∧
      u.toNat ≡ v.toNat [MOD 2 ^ k.toNat] ∧
      (u.toNat ≡ v.toNat [MOD 2 ^ w.maxBits.toNat] ↔
        ∃ x, (standardInterval s.value k w.shift).contains x = true ∧
          x.toNat ≡ v.toNat [MOD 2 ^ w.maxBits.toNat]) ∧
      (k = w.maxBits ∨ k = w.requiredBits v ∨
          (∃ a ∈ w'.ring.held, ∃ b ∈ w'.ring.held, a.value ≤ s.value ∧ s.value ≤ b.value) →
        u.toNat ≡ v.toNat [MOD 2 ^ w.maxBits.toNat]) := by
  intro w' k
  have h' : w'.Reachable := h.step _
  have hmax := h.maxBits_range.2
  have hregular : w.interval.Regular w.shift :=
    hf ▸ IntervalFunction.standardInterval_regular w.shift
  have huniform : ∀ j < w.maxBits, w.interval.UniformAt w.shift j :=
    fun j hj => hregular.uniformAt (UInt8.le_trans (UInt8.le_of_lt hj) hmax)
  have hempty : w'.ring.held = [] → k = w.maxBits := by
    intro he
    change w'.requiredBits v = w'.maxBits
    rw [requiredBits, h'.bounds?_eq_none_iff.mpr he]
  have hfirst : w'.ring.held ≠ [] → IsFirstWidth w.maxBits
      (fun j => ∀ t ∈ w'.ring.held, w.covers t.value j v = true) k :=
    fun hne => (h'.width?_eq_ok huniform hne v).2
  have hle : k ≤ w.maxBits := by
    by_cases he : w'.ring.held = []
    · exact UInt8.le_of_eq (hempty he)
    · exact (hfirst he).le
  obtain ⟨u, hu, hmod, hmem, honly⟩ :=
    decodeWith_encoded_member hregular (UInt8.le_trans hle hmax) s.value v
  refine ⟨h.held_acknowledge hs hsn honce, hempty, v &&& lowMask k, u,
    encode_eq (UInt8.le_trans hle hmax) v, by rwa [hf] at hu, hmod, ⟨fun hv => ?_, ?_⟩, ?_⟩
  · exact ⟨u, hf ▸ hmem, hv⟩
  · rintro ⟨x, hx, hxv⟩
    have hdvd : 2 ^ k.toNat ∣ 2 ^ w.maxBits.toNat := pow_dvd_pow 2 (UInt8.le_iff_toNat_le.mp hle)
    rw [honly x (hf ▸ hx) (hxv.of_dvd hdvd)]
    exact hxv
  · intro hcase
    by_cases hfull : k = w.maxBits
    · exact hfull ▸ hmod
    · have hlt : k < w.maxBits := UInt8.lt_of_le_of_ne hle hfull
      have hcovers : w.covers s.value k v = true := by
        rcases hcase with he | he | ⟨a, ha, b, hb, has, hsb⟩
        · exact absurd he hfull
        · have hne : w.ring.held ≠ [] := List.ne_nil_of_mem hs
          have hbefore := (h.width?_eq_ok huniform hne v).2
          exact he ▸ hbefore.enough_of_lt (he ▸ hlt) s hs
        · have hall := (hfirst (List.ne_nil_of_mem ha)).enough_of_lt hlt
          exact (huniform k hlt).covers_between (hall a ha) (hall b hb) has hsb
      rw [honly v (Interval.contains_of_covers hcovers) (Nat.ModEq.refl _)]

/-- The reference 50 is acknowledged, and 10 and 100 stay, for which seven bits are sent of 101. -/
theorem decode_against_acknowledged_between : ∃ w : Window, w.Reachable ∧
    w.interval = standardInterval ∧ (⟨1, 50, true⟩ : Slot) ∈ w.ring.held ∧
    w.ring.held.countP (·.number == 1) = 1 ∧
    (w.act (.acknowledge (.ofNat _ 1))).requiredBits 101 = 7 ∧
    ∃ bits u, encode 101 7 = .ok bits ∧ decode bits 50 7 w.shift = .ok u ∧
      u.toNat ≡ 101 [MOD 2 ^ w.maxBits.toNat] := by
  have hw := create_ample 16 4 .rtpSequenceNumber standardInterval (by decide) (by decide)
  have h := (Reachable.start hw).run
    [.insert (.ofNat _ 1) 50, .insert (.ofNat _ 2) 10, .insert (.ofNat _ 3) 100]
  obtain ⟨-, -, bits, u, hbits, hu, -, -, hright⟩ := @decode_against_acknowledged _ (.ofNat _ 1)
    ⟨1, 50, true⟩ h rfl (by decide) (by decide) (by decide) 101
  refine ⟨_, h, rfl, by decide, by decide, by decide, bits, u, hbits, hu, hright (.inr (.inr ?_))⟩
  exact ⟨⟨2, 10, true⟩, by decide, ⟨3, 100, true⟩, by decide, by decide, by decide⟩

end WindowedLsb.Window
