import Mathlib.Data.Set.Insert
import WindowedLsb.Proofs.Width

/-!
What the references cost. The width is the least that does for all of them, so that it can only fall when
references go and only rise when one comes. A value above all references has to be read from the smallest
one, and the others add nothing to that.
-/

namespace WindowedLsb

/-! ## More or fewer references -/

namespace Window

variable {w : Window} {v : UInt32}

theorem Reachable.requiredBits_le_of_subset {r : Ring} (h : w.Reachable)
    (hr : ({ w with ring := r } : Window).Reachable) (hf : w.interval.Equivariant)
    (hne : w.ring.held ≠ []) (hsub : w.ring.held ⊆ r.held) (v : UInt32) :
    w.requiredBits v ≤ ({ w with ring := r } : Window).requiredBits v := by
  have hfirst := (h.width?_eq_ok (fun k _ => hf w.shift k) hne v).2
  have hne' : r.held ≠ [] := fun he => hne (List.subset_nil.mp (he ▸ hsub))
  have hfirst' := (hr.width?_eq_ok (fun k _ => hf w.shift k) hne' v).2
  exact hfirst'.le_of_imp hfirst fun k _ hall s hs => hall s (hsub hs)

/-- Fewer references never cost more. An acknowledgment that leaves any does not raise the width of any
value, and a reference inserted while there is room beside others does not lower it. -/
theorem requiredBits_monotone_in_references (h : w.Reachable) (hf : w.interval = standardInterval) :
    (∀ sn v, (w.act (.acknowledge sn)).ring.isEmpty = false →
      (w.act (.acknowledge sn)).requiredBits v ≤ w.requiredBits v) ∧
    (w.ring.isEmpty = false → w.ring.size < w.ring.capacity →
      ∀ sn value v, w.requiredBits v ≤ (w.act (.insert sn value)).requiredBits v) := by
  have hequivariant : w.interval.Equivariant :=
    hf ▸ IntervalFunction.standardInterval_equivariant
  refine ⟨fun sn v hempty => ?_, fun hempty hroom sn value v => ?_⟩
  · have h' : (w.act (.acknowledge sn)).Reachable := h.step _
    have hne := h'.holds.isEmpty_eq_false_iff.mp hempty
    exact h'.requiredBits_le_of_subset h hequivariant hne
      (h.holds.held_acknowledge_suffix sn).subset v
  · have hne := h.holds.isEmpty_eq_false_iff.mp hempty
    have hinsert := h.holds.held_insert sn value
    rw [if_neg (h.holds.size_eq ▸ Nat.ne_of_lt hroom)] at hinsert
    refine h.requiredBits_le_of_subset (h.step (.insert sn value)) hequivariant hne ?_ v
    change w.ring.held ⊆ (w.ring.insert sn value).held
    rw [hinsert]
    exact List.subset_append_left _ _

/-- Six bits for 129 as long as 100 and 130 are held. Once 130 is alone, one bit does. -/
theorem requiredBits_monotone_in_references_lapse : ∃ w : Window, w.Reachable ∧
    w.interval = standardInterval ∧ w.ring.isEmpty = false ∧ w.ring.size < w.ring.capacity ∧
    (w.act (.acknowledge (.ofNat _ 1))).ring.isEmpty = false ∧
    w.requiredBits 129 = 6 ∧
    (w.act (.acknowledge (.ofNat _ 1))).requiredBits 129 ≤ 6 ∧
    6 ≤ (w.act (.insert (.ofNat _ 3) 70)).requiredBits 129 := by
  obtain ⟨w, h, hf, hne, hroom, hne', h6⟩ : ∃ w : Window, w.Reachable ∧
      w.interval = standardInterval ∧ w.ring.held ≠ [] ∧ w.ring.size < w.ring.capacity ∧
      (w.act (.acknowledge (.ofNat _ 1))).ring.held ≠ [] ∧ w.requiredBits 129 = 6 := by
    have hw := create_ample 16 4 .rtpSequenceNumber standardInterval (by decide) (by decide)
    exact ⟨_, (Reachable.start hw).run [.insert (.ofNat _ 1) 100, .insert (.ofNat _ 2) 130],
      rfl, by decide, by decide, by decide, by decide⟩
  have he := h.holds.isEmpty_eq_false_iff.mpr hne
  have he' := (h.step (.acknowledge (.ofNat _ 1))).holds.isEmpty_eq_false_iff.mpr hne'
  obtain ⟨hack, hinsert⟩ := requiredBits_monotone_in_references h hf
  exact ⟨w, h, hf, he, hroom, he', h6, h6 ▸ hack _ 129 he', h6 ▸ hinsert he hroom _ 70 129⟩

end Window

/-! ## Values above all references -/

/-- The shift that the interval starts below its reference, at every width. -/
def Shift.Nonneg : Shift → Prop
  | fixed p => 0 ≤ p
  | rtpSequenceNumber | rtpTimestamp => True

theorem Shift.Nonneg.offset_nonneg {shift : Shift} (hs : shift.Nonneg) (k : UInt8) :
    0 ≤ shift.offset k := by
  have hpos : ∀ j, (0 : Int) < twoPow j := fun j => by exact_mod_cast Nat.two_pow_pos j
  cases shift with
  | fixed p => exact Int32.le_iff_toInt_le.mp hs
  | rtpSequenceNumber =>
      have := hpos (k.toNat - 5)
      simp only [offset]
      split <;> omega
  | rtpTimestamp =>
      have := hpos (k.toNat - 2)
      simp only [offset]
      split <;> omega

/-- The least width whose interval ends `d` above its reference or higher. -/
def forwardWidth (maxBits : UInt8) (shift : Shift) (d : UInt32) : UInt8 :=
  Window.firstWidth 0 maxBits fun k => (d.toNat : Int) ≤ 2 ^ k.toNat - 1 - shift.offset k

theorem isFirstWidth_forwardWidth (maxBits : UInt8) (shift : Shift) (d : UInt32) :
    IsFirstWidth maxBits (fun k => (d.toNat : Int) ≤ 2 ^ k.toNat - 1 - shift.offset k)
      (forwardWidth maxBits shift d) :=
  (Window.isFirstWidth_firstWidth UInt8.zero_le fun _ hj => absurd hj UInt8.not_lt_zero).congr
    fun _ _ => decide_eq_true_iff

theorem forwardWidth_mono (maxBits : UInt8) (shift : Shift) {d d' : UInt32} (hd : d ≤ d') :
    forwardWidth maxBits shift d ≤ forwardWidth maxBits shift d' := by
  rw [UInt32.le_iff_toNat_le] at hd
  refine (isFirstWidth_forwardWidth maxBits shift d').le_of_imp
    (isFirstWidth_forwardWidth maxBits shift d) fun k _ hk => ?_
  omega

/-- A value is read from a reference that it does not lie below exactly if the interval ends high
enough. -/
theorem covers_forward_iff {k : UInt8} {shift : Shift} {ref v : UInt32} (hk : k ≤ wordBits)
    (hs : shift.Nonneg) (hle : ref ≤ v) : (standardInterval ref k shift).covers ref v = true ↔
      ((v - ref).toNat : Int) ≤ 2 ^ k.toNat - 1 - shift.offset k := by
  have hpos := hs.offset_nonneg k
  have hsub := UInt32.toNat_sub_of_le v ref hle
  rw [UInt32.le_iff_toNat_le] at hle
  rw [covers_standardInterval_iff hk, hsub]
  omega

namespace Window

variable {w : Window} {m v : UInt32} {k : UInt8}

theorem forall_covers_iff {r : Ring} {shift : Shift} (hk : k ≤ wordBits) (hs : shift.Nonneg)
    (hm : IsLeast r.values m) (hv : ∀ s ∈ r.held, s.value ≤ v) :
    (∀ s ∈ r.held, (standardInterval s.value k shift).covers s.value v = true) ↔
      ((v - m).toNat : Int) ≤ 2 ^ k.toNat - 1 - shift.offset k := by
  obtain ⟨⟨least, hleast, rfl⟩, hmin⟩ := hm
  constructor
  · intro hall
    exact (covers_forward_iff hk hs (hv least hleast)).mp (hall least hleast)
  · -- The other references lie between the smallest one and the value.
    intro hreach s hmem
    refine (covers_forward_iff hk hs (hv s hmem)).mpr (le_trans ?_ hreach)
    have hbelow : least.value ≤ s.value := hmin ⟨s, hmem, rfl⟩
    have hsv := hv s hmem
    rw [UInt32.toNat_sub_of_le _ _ hsv, UInt32.toNat_sub_of_le _ _ (hv least hleast)]
    rw [UInt32.le_iff_toNat_le] at hbelow
    omega

theorem Reachable.width?_forward (h : w.Reachable) (hf : w.interval = standardInterval)
    (hs : w.shift.Nonneg) (hm : IsLeast w.ring.values m) (hv : ∀ s ∈ w.ring.held, s.value ≤ v) :
    w.width? v = .ok (forwardWidth w.maxBits w.shift (v - m)) := by
  have hequivariant : w.interval.Equivariant :=
    hf ▸ IntervalFunction.standardInterval_equivariant
  obtain ⟨s, hmem, -⟩ := hm.1
  obtain ⟨hok, hfirst⟩ :=
    h.width?_eq_ok (fun k _ => hequivariant w.shift k) (List.ne_nil_of_mem hmem) v
  have hreach : IsFirstWidth w.maxBits
      (fun k => ((v - m).toNat : Int) ≤ 2 ^ k.toNat - 1 - w.shift.offset k) (w.requiredBits v) := by
    refine hfirst.congr fun k hk => ?_
    have hword := UInt8.le_trans (UInt8.le_of_lt hk) h.maxBits_range.2
    simp only [covers, hf]
    exact forall_covers_iff hword hs hm hv
  rw [hok, (isFirstWidth_forwardWidth w.maxBits w.shift (v - m)).unique hreach]

/-- What a value costs that lies below no reference, under a shift that is not negative: as many bits as
reach up to it from the smallest reference. No other reference makes a difference, nor does it matter
where the two lie, and a larger value costs no less. -/
theorem width_of_forward_value (h : w.Reachable) (hf : w.interval = standardInterval)
    (hs : w.shift.Nonneg) (hempty : w.ring.isEmpty = false) :
    ∃ m, IsLeast w.ring.values m ∧ ∀ v, (∀ s ∈ w.ring.held, s.value ≤ v) →
      w.width? v = .ok (forwardWidth w.maxBits w.shift (v - m)) ∧
      IsFirstWidth w.maxBits
        (fun k => (v.toNat : Int) - m.toNat ≤ 2 ^ k.toNat - 1 - w.shift.offset k)
        (forwardWidth w.maxBits w.shift (v - m)) ∧
      (∀ w' : Window, w'.Reachable → w'.maxBits = w.maxBits → w'.shift = w.shift →
        w'.interval = standardInterval → w'.ring.values = {m} → w'.width? v = w.width? v) ∧
      ∀ v', v ≤ v' →
        forwardWidth w.maxBits w.shift (v - m) ≤ forwardWidth w.maxBits w.shift (v' - m) := by
  obtain ⟨m, -, -, hm, -⟩ := h.exists_bounds hempty
  refine ⟨m, hm, fun v hv => ?_⟩
  have hwidth := h.width?_forward hf hs hm hv
  have hmv : m ≤ v := by
    obtain ⟨s, hmem, rfl⟩ := hm.1
    exact hv s hmem
  have hsub := UInt32.toNat_sub_of_le v m hmv
  have hle := UInt32.le_iff_toNat_le.mp hmv
  refine ⟨hwidth, ?_, ?_, fun v' hvv' => forwardWidth_mono _ _ ?_⟩
  · refine (isFirstWidth_forwardWidth w.maxBits w.shift (v - m)).congr fun k _ => ?_
    rw [hsub, Nat.cast_sub hle]
  · intro w' h' hb hs' hf' hvalues
    have hm' : IsLeast w'.ring.values m := by
      rw [hvalues]
      exact ⟨rfl, fun x hx => UInt32.le_of_eq hx.symm⟩
    have hv' : ∀ s ∈ w'.ring.held, s.value ≤ v := by
      intro s hmem
      have hs : s.value ∈ w'.ring.values := ⟨s, hmem, rfl⟩
      rw [hvalues] at hs
      exact UInt32.le_trans (UInt32.le_of_eq hs) hmv
    rw [hwidth, h'.width?_forward hf' (hs' ▸ hs) hm' hv', hb, hs']
  · have hmv' := UInt32.le_trans hmv hvv'
    rw [UInt32.le_iff_toNat_le, hsub, UInt32.toNat_sub_of_le v' m hmv']
    have := UInt32.le_iff_toNat_le.mp hvv'
    omega

/-- Five bits just reach 1031 from the smallest of three references, as they do if it is alone. -/
theorem width_of_forward_value_five_bits : ∃ w single : Window, w.Reachable ∧
    w.interval = standardInterval ∧ w.shift.Nonneg ∧ w.ring.isEmpty = false ∧
    w.ring.held.map Slot.value = [1003, 1000, 1001] ∧ single.ring.values = {1000} ∧
    w.width? 1031 = .ok 5 ∧ single.width? 1031 = w.width? 1031 ∧
    IsFirstWidth w.maxBits (fun k => (1031 : Int) - 1000 ≤ 2 ^ k.toNat - 1 - w.shift.offset k) 5 ∧
    5 ≤ forwardWidth w.maxBits w.shift (1040 - 1000) := by
  have hw : ∀ capacity, capacity ≠ 0 → Memory.ample.grants (capacity * Slot.bytes) →
      create .ample 16 capacity .rtpSequenceNumber standardInterval =
        .ok ⟨.empty capacity, 16, .rtpSequenceNumber, standardInterval⟩ :=
    fun capacity hc hroom => create_eq_ok_iff.mpr ⟨by decide, hc, hroom, rfl⟩
  have h := (Reachable.start (hw 4 (by decide) (by decide))).run
    [.insert (.ofNat _ 1) 1003, .insert (.ofNat _ 2) 1000, .insert (.ofNat _ 3) 1001]
  have hsingle := (Reachable.start (hw 1 (by decide) (by decide))).run [.insert (.ofNat _ 9) 1000]
  have hempty := h.holds.isEmpty_eq_false_iff.mpr (by decide)
  obtain ⟨m, hm, hforward⟩ := width_of_forward_value h rfl trivial hempty
  obtain rfl : m = 1000 := by
    refine UInt32.le_antisymm (hm.2 ⟨⟨2, 1000, true⟩, by decide, rfl⟩) ?_
    obtain ⟨s, hs, rfl⟩ := hm.1
    exact (by decide : ∀ s ∈ [(⟨1, 1003, true⟩ : Slot), ⟨2, 1000, true⟩, ⟨3, 1001, true⟩],
      1000 ≤ s.value) s hs
  obtain ⟨hwidth, hfirst, halone, hmono⟩ := hforward 1031 (by decide)
  have hvalues : ∀ r : Ring, r.held = [⟨9, 1000, true⟩] → r.values = {1000} := fun r hr => by
    simp [Ring.values, hr, eq_comm]
  refine ⟨_, _, h, rfl, trivial, hempty, by decide, ?_, hwidth, halone _ hsingle rfl rfl rfl ?_,
    hfirst, hmono 1040 (by decide)⟩
  all_goals exact hvalues _ (by decide)

end Window
end WindowedLsb
