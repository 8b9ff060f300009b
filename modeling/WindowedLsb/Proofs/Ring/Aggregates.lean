import Mathlib.Algebra.Group.Action.Defs
import Mathlib.Algebra.Order.BigOperators.Group.List
import Mathlib.Algebra.Order.Group.Nat
import WindowedLsb.Proofs.Ring.Queue
import WindowedLsb.Proofs.Width

/-!
The sum and the mean of the values held. They are taken over the slots in the order in which these are
stored, in words of 64 bits, and come out as over the queue in unbounded numbers.
-/

namespace WindowedLsb

namespace Ring

variable {r s : Ring} {m n : Nat}

theorem total_queue (r : Ring) : total r.queue = (r.held.map fun s => s.value.toNat).sum := by
  rw [total, queue, List.map_map]
  rfl

theorem total_div_length_mem_Icc {q : List Entry} {a b : Nat} (hne : q ≠ [])
    (hq : ∀ e ∈ q, e.2.toNat ∈ Set.Icc a b) : total q / q.length ∈ Set.Icc a b := by
  have hpos : 0 < q.length := List.length_pos_iff.mpr hne
  have hlo : q.length * a ≤ total q := by
    have hsum := List.card_nsmul_le_sum (q.map fun e => e.2.toNat) a
    rw [List.length_map, smul_eq_mul] at hsum
    exact hsum (List.forall_mem_map.mpr fun e he => (hq e he).1)
  have hhi : total q ≤ q.length * b := by
    have hsum := List.sum_le_card_nsmul (q.map fun e => e.2.toNat) b
    rw [List.length_map, smul_eq_mul] at hsum
    exact hsum (List.forall_mem_map.mpr fun e he => (hq e he).2)
  constructor
  · rwa [Nat.le_div_iff_mul_le hpos, Nat.mul_comm]
  · exact Nat.div_le_of_le_mul hhi

/-- Rings with the same queue have the same sum and mean, wherever in them the run lies and whatever
else their slots hold. -/
theorem Holds.aggregates_congr (h : r.Holds n) (hs : s.Holds m) (hq : r.queue = s.queue) :
    r.sum = s.sum ∧ r.mean = s.mean := by
  have hsum : r.sum = s.sum := by rw [← UInt64.toNat_inj, h.sum_toNat, hs.sum_toNat, hq]
  have hsize : r.size = s.size := by
    rw [h.size_eq, hs.size_eq, ← h.length_queue, ← hs.length_queue, hq]
  have hempty : r.isEmpty = s.isEmpty := by
    have hheld : r.held = s.held := by rw [held_eq_queue, hq, ← held_eq_queue]
    rw [Bool.eq_iff_iff, h.isEmpty_iff, hs.isEmpty_iff, hheld]
  exact ⟨hsum, by rw [mean, mean, hempty, hsum, hsize]⟩

end Ring

namespace Window

variable {w : Window}

theorem Reachable.sum_mean_toNat (h : w.Reachable) (hc : w.ring.capacity ≤ 2 ^ 32) :
    w.ring.sum.toNat = Ring.total w.ring.queue ∧
      w.ring.mean.toNat = Ring.total w.ring.queue / w.ring.size := by
  have hlen := h.holds.length_queue
  rw [h.holds.size_eq, ← hlen]
  exact h.holds.sum_mean_exact (h.capacity_lt.trans (by decide))
    (hlen.le.trans (h.holds.le_capacity.trans hc))

theorem Reachable.mean_between (h : w.Reachable) (hc : w.ring.capacity ≤ 2 ^ 32)
    (hempty : w.ring.isEmpty = false) : ∃ a b, IsLeast w.ring.values a ∧
      IsGreatest w.ring.values b ∧ a ≤ w.ring.mean ∧ w.ring.mean ≤ b := by
  obtain ⟨a, b, -, hleast, hgreatest⟩ := h.exists_bounds hempty
  have hne : w.ring.queue ≠ [] := fun he =>
    h.holds.isEmpty_eq_false_iff.mp hempty (List.map_eq_nil_iff.mp he)
  have hbounds : ∀ e ∈ w.ring.queue, e.2.toNat ∈ Set.Icc a.toNat b.toNat := by
    intro e he
    obtain ⟨s, hs, rfl⟩ := List.mem_map.mp he
    exact ⟨UInt32.le_iff_toNat_le.mp (hleast.2 ⟨s, hs, rfl⟩),
      UInt32.le_iff_toNat_le.mp (hgreatest.2 ⟨s, hs, rfl⟩)⟩
  obtain ⟨hlo, hhi⟩ := Ring.total_div_length_mem_Icc hne hbounds
  have hmean := (h.sum_mean_toNat hc).2
  rw [h.holds.size_eq, ← h.holds.length_queue] at hmean
  rw [← hmean] at hlo hhi
  exact ⟨a, b, hleast, hgreatest, UInt32.le_iff_toNat_le.mpr hlo, UInt32.le_iff_toNat_le.mpr hhi⟩

/-- Up to `2^32` slots the sum of the values is that of unbounded numbers, and the mean is its quotient
by their number rounded down, which fits a word and lies between the smallest value and the largest.
Both are zero in an empty window, and the same in every ring that holds the same queue. -/
theorem aggregates_exact (h : w.Reachable) (hc : w.ring.capacity ≤ 2 ^ 32) :
    w.ring.sum.toNat = (w.ring.held.map fun s => s.value.toNat).sum ∧
    (w.ring.isEmpty = false →
      w.ring.size * w.ring.mean.toNat ≤ w.ring.sum.toNat ∧
      w.ring.sum.toNat < w.ring.size * (w.ring.mean.toNat + 1) ∧
      w.ring.mean.toUInt64 = w.ring.sum / UInt64.ofNat w.ring.size ∧
      ∃ a b, IsLeast w.ring.values a ∧ IsGreatest w.ring.values b ∧
        a ≤ w.ring.mean ∧ w.ring.mean ≤ b) ∧
    (w.ring.isEmpty = true → w.ring.sum = 0 ∧ w.ring.mean = 0) ∧
    ∀ (r : Ring) (n : Nat), r.Holds n → r.queue = w.ring.queue →
      r.sum = w.ring.sum ∧ r.mean = w.ring.mean := by
  obtain ⟨hsum, hmean⟩ := h.sum_mean_toNat hc
  refine ⟨hsum.trans (Ring.total_queue _), fun hempty => ?_, fun hempty => ?_,
    fun r n hr hq => hr.aggregates_congr h.holds hq⟩
  · have hpos : 0 < w.ring.size := by
      rw [h.holds.size_eq]
      exact List.length_pos_iff.mpr (h.holds.isEmpty_eq_false_iff.mp hempty)
    have hlt : w.ring.size < 2 ^ 64 := by
      rw [h.holds.size_eq]
      exact lt_of_le_of_lt h.holds.le_capacity (h.capacity_lt.trans (by decide))
    refine ⟨?_, ?_, ?_, h.mean_between hc hempty⟩
    · rw [hsum, hmean]
      exact Nat.mul_div_le _ _
    · rw [hsum, hmean]
      exact Nat.lt_mul_div_succ _ hpos
    · rw [← UInt64.toNat_inj, UInt32.toNat_toUInt64, UInt64.toNat_div, hsum, hmean,
        UInt64.toNat_ofNat', Nat.mod_eq_of_lt hlt]
  · have htotal : Ring.total w.ring.queue = 0 := by
      rw [Ring.total_queue, h.holds.isEmpty_iff.mp hempty]
      rfl
    rw [htotal] at hsum hmean
    rw [Nat.zero_div] at hmean
    exact ⟨UInt64.toNat_inj.mp hsum, UInt32.toNat_inj.mp hmean⟩

/-- Two values whose sum needs more than a word, held across the end of a ring of two slots, and the same
two further on in a ring of five, behind freed slots that keep their old numbers. -/
theorem aggregates_exact_across_end : ∃ w w' : Window, w.Reachable ∧ w.ring.capacity ≤ 2 ^ 32 ∧
    w.ring.isEmpty = false ∧ w.ring.sum.toNat = 8589934589 ∧
    w.ring.size * w.ring.mean.toNat ≤ 8589934589 ∧
    8589934589 < w.ring.size * (w.ring.mean.toNat + 1) ∧
    w'.Reachable ∧ w'.ring.queue = w.ring.queue ∧ w'.ring.oldest ≠ w.ring.oldest ∧
    w'.ring.sum = w.ring.sum ∧ w'.ring.mean = w.ring.mean := by
  have hw : ∀ capacity, capacity ≠ 0 → Memory.ample.grants (capacity * Slot.bytes) →
      create .ample 32 capacity .rtpTimestamp standardInterval =
        .ok ⟨.empty capacity, 32, .rtpTimestamp, standardInterval⟩ :=
    fun capacity hc hroom => create_eq_ok_iff.mpr ⟨by decide, hc, hroom, rfl⟩
  have h := (Reachable.start (hw 2 (by decide) (by decide))).run
    [.insert (.ofNat _ 1) 7, .insert (.ofNat _ 2) 0xffffffff, .insert (.ofNat _ 3) 0xfffffffe]
  have h' := (Reachable.start (hw 5 (by decide) (by decide))).run
    [.insert (.ofNat _ 9) 7, .insert (.ofNat _ 8) 7, .acknowledge (.ofNat _ 8),
      .insert (.ofNat _ 2) 0xffffffff, .insert (.ofNat _ 3) 0xfffffffe]
  have hempty := h.holds.isEmpty_eq_false_iff.mpr (by decide)
  obtain ⟨hsum, hmean, -, hsame⟩ := aggregates_exact h (by decide)
  have htotal : _ = 8589934589 := hsum.trans (by decide)
  obtain ⟨hle, hlt, -⟩ := hmean hempty
  rw [htotal] at hle hlt
  exact ⟨_, _, h, by decide, hempty, htotal, hle, hlt, h', by decide, by decide,
    hsame _ _ h'.holds (by decide)⟩

end Window
end WindowedLsb
