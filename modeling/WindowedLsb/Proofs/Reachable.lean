import WindowedLsb.Proofs.Ring.Actions
import WindowedLsb.Window

/-!
Windows that come about: made with parameters in range and led on by actions. Their rings satisfy
the ring invariant, and their parameters stay as they were made.
-/

namespace WindowedLsb

/-- The memory that grants all it may. -/
def Memory.ample : Memory := ⟨fun bytes => bytes < twoPow 63, of_decide_eq_true⟩

namespace Window

/-- A window just made, or one that an action has made of such a window. -/
inductive Reachable : Window → Prop where
  | start {memory maxBits capacity shift f w} :
      create memory maxBits capacity shift f = .ok w → Reachable w
  | step {w} (a : Ring.Action) : Reachable w → Reachable (w.act a)

variable {w : Window}

theorem create_eq_ok_iff {memory : Memory} {maxBits : UInt8} {capacity : Nat} {shift : Shift}
    {f : IntervalFunction} :
    create memory maxBits capacity shift f = .ok w ↔
      (maxBits ≠ 0 ∧ maxBits ≤ wordBits) ∧ capacity ≠ 0 ∧
        memory.grants (capacity * Slot.bytes) ∧ w = ⟨.empty capacity, maxBits, shift, f⟩ := by
  by_cases hm : maxBits = 0 ∨ maxBits > wordBits
  · have hm' : ¬(maxBits ≠ 0 ∧ maxBits ≤ wordBits) := by
      rintro ⟨h0, hle⟩
      rcases hm with h | h
      · exact h0 h
      · exact absurd hle (UInt8.not_le.mpr h)
    simp [create, checkRange, hm, hm']
  · have hm' : maxBits ≠ 0 ∧ maxBits ≤ wordBits := by
      rw [not_or] at hm
      exact ⟨hm.1, UInt8.not_lt.mp hm.2⟩
    by_cases hc : capacity = 0
    · simp [create, checkRange, hm, hc]
    · have hrange : checkRange maxBits capacity = .ok () := by rw [checkRange, if_neg hm, if_neg hc]
      by_cases hr : memory.grants (capacity * Slot.bytes)
      · simp [create, hrange, checkRoom, hm', hc, hr, eq_comm]
      · simp [create, hrange, checkRoom, hr]

/-- With memory enough, a window is made wherever its parameters are in range. -/
theorem create_ample (maxBits : UInt8) (capacity : Nat) (shift : Shift) (f : IntervalFunction)
    (hm : maxBits ≠ 0 ∧ maxBits ≤ wordBits)
    (hc : capacity ≠ 0 ∧ capacity * Slot.bytes < twoPow 63) :
    create .ample maxBits capacity shift f = .ok ⟨.empty capacity, maxBits, shift, f⟩ :=
  create_eq_ok_iff.mpr ⟨hm, hc.1, decide_eq_true hc.2, rfl⟩

theorem Reachable.run (h : w.Reachable) (actions : List Ring.Action) : (w.run actions).Reachable := by
  induction actions generalizing w with
  | nil => exact h
  | cons a actions ih => exact ih (h.step a)

theorem Reachable.exists_holds (h : w.Reachable) : ∃ n, w.ring.Holds n := by
  induction h with
  | start hw =>
      obtain ⟨_, hc, _, rfl⟩ := create_eq_ok_iff.mp hw
      exact ⟨0, Ring.holds_empty (Nat.pos_of_ne_zero hc)⟩
  | step a _ ih =>
      obtain ⟨n, hn⟩ := ih
      exact hn.act a

theorem Reachable.holds (h : w.Reachable) : w.ring.Holds w.ring.held.length := by
  obtain ⟨n, hn⟩ := h.exists_holds
  rwa [hn.length_held]

theorem Reachable.maxBits_range (h : w.Reachable) : w.maxBits ≠ 0 ∧ w.maxBits ≤ wordBits := by
  induction h with
  | start hw =>
      obtain ⟨hm, _, _, rfl⟩ := create_eq_ok_iff.mp hw
      exact hm
  | step _ _ ih => exact ih

theorem Reachable.bytes_lt (h : w.Reachable) : w.ring.capacity * Slot.bytes < twoPow 63 := by
  induction h with
  | @start memory _ _ _ _ _ hw =>
      obtain ⟨_, _, hr, rfl⟩ := create_eq_ok_iff.mp hw
      rw [Ring.empty, Ring.capacity, Array.size_replicate]
      exact memory.lt_of_grants hr
  | step a h ih =>
      rw [Window.act, h.holds.capacity_act]
      exact ih

theorem Reachable.capacity_lt (h : w.Reachable) : w.ring.capacity < 2 ^ 63 := by
  have hb := h.bytes_lt
  rw [show Slot.bytes = 12 from rfl, show twoPow 63 = 2 ^ 63 from rfl] at hb
  omega

theorem run_eq (w : Window) (actions : List Ring.Action) :
    w.run actions = { w with ring := w.ring.run actions } := by
  induction actions generalizing w with
  | nil => rfl
  | cons a actions ih => exact ih (w.act a)

end Window
end WindowedLsb
