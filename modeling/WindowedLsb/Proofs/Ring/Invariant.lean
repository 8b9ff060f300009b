import WindowedLsb.Proofs.Ring.Layout

/-!
The ring invariant: the references are a run from the oldest cursor up to the insertion cursor.
Every action keeps it, and each one is read here as a change of the run.
-/

namespace WindowedLsb.Ring

/-- In ring order the first `n` slots hold references and no other slot does, and the insertion
cursor stands behind them. -/
structure Holds (r : Ring) (n : Nat) : Prop where
  le_capacity : n ≤ r.capacity
  oldest_lt : r.oldest < r.capacity
  next_eq : r.next = r.position n
  used_iff : ∀ i < r.capacity, (r.nth i).used = true ↔ i < n

variable {r s : Ring} {i k m n : Nat}

theorem Holds.capacity_pos (h : r.Holds n) : 0 < r.capacity := Nat.zero_lt_of_lt h.oldest_lt

theorem Holds.next_lt (h : r.Holds n) : r.next < r.capacity := by
  rw [h.next_eq]
  exact position_lt h.capacity_pos n

theorem holds_empty {capacity : Nat} (hc : 0 < capacity) : (empty capacity).Holds 0 where
  le_capacity := Nat.zero_le _
  oldest_lt := by simpa [empty, Ring.capacity] using hc
  next_eq := by simp [empty, position]
  used_iff i _ := by
    have hs : (empty capacity).nth i = default := by
      simp only [nth, slot, empty, Array.getD_eq_getD_getElem?, Array.getElem?_replicate]
      split <;> rfl
    rw [hs]
    exact ⟨fun h => Bool.noConfusion h, fun h => absurd h (Nat.not_lt_zero i)⟩

/-! ## Views -/

/-- In ring order the slots are the run of references and then free slots only. -/
theorem Holds.ring_order (h : r.Holds n) : ∃ rest : List Slot,
    r.positions.map r.slot = (List.range n).map r.nth ++ rest ∧
      (∀ s ∈ (List.range n).map r.nth, s.used = true) ∧ ∀ s ∈ rest, s.used = false := by
  obtain ⟨m, hm⟩ := Nat.exists_eq_add_of_le h.le_capacity
  refine ⟨(List.range m).map fun j => r.nth (n + j), ?_, ?_, ?_⟩
  · have hp : r.positions.map r.slot = (List.range r.capacity).map r.nth := List.map_map
    rw [hp, hm, List.range_add, List.map_append, List.map_map]
    rfl
  · intro s hs
    obtain ⟨i, hi, rfl⟩ := List.mem_map.mp hs
    have hi' := List.mem_range.mp hi
    exact (h.used_iff i (by omega)).mpr hi'
  · intro s hs
    obtain ⟨j, hj, rfl⟩ := List.mem_map.mp hs
    have hj' := List.mem_range.mp hj
    have hu := h.used_iff (n + j) (by omega)
    rw [← Bool.not_eq_true, hu]
    omega

theorem Holds.held_eq (h : r.Holds n) : r.held = (List.range n).map r.nth := by
  obtain ⟨rest, he, hused, hfree⟩ := h.ring_order
  rw [held, he, List.takeWhile_append_of_pos hused]
  cases rest with
  | nil => simp
  | cons s rest => simp [hfree s (by simp)]

theorem Holds.length_held (h : r.Holds n) : r.held.length = n := by simp [h.held_eq]

theorem Holds.getElem_held (h : r.Holds n) (hi : i < r.held.length) : r.held[i] = r.nth i := by
  simp [h.held_eq]

theorem size_le_capacity (r : Ring) : r.size ≤ r.capacity := List.length_filter_le _ _

/-- The scan in slot order meets the used slots of the ring order, in another order. -/
theorem usedSlots_perm_filter (r : Ring) :
    r.usedSlots.Perm ((r.positions.map r.slot).filter Slot.used) := by
  rw [map_slot_positions]
  exact ((List.rotate_perm _ _).filter _).symm

/-- The scan in slot order meets the references held, in another order. -/
theorem Holds.usedSlots_perm (h : r.Holds n) : r.usedSlots.Perm r.held := by
  obtain ⟨rest, he, hused, hfree⟩ := h.ring_order
  have hf : (r.positions.map r.slot).filter Slot.used = r.held := by
    rw [he, List.filter_append, List.filter_eq_self.mpr hused,
      List.filter_eq_nil_iff.mpr (fun s hs => by simp [hfree s hs]), List.append_nil, h.held_eq]
  rw [← hf]
  exact r.usedSlots_perm_filter

theorem Holds.mem_usedSlots (h : r.Holds n) {s : Slot} : s ∈ r.usedSlots ↔ s ∈ r.held :=
  h.usedSlots_perm.mem_iff

theorem Holds.size_eq (h : r.Holds n) : r.size = n := by
  rw [size, h.usedSlots_perm.length_eq, h.length_held]

theorem Holds.usedSlots_eq_nil_iff (h : r.Holds n) : r.usedSlots = [] ↔ r.held = [] := by
  have hp := h.usedSlots_perm
  exact ⟨fun he => (he ▸ hp).nil_eq.symm, fun he => (he ▸ hp).eq_nil⟩

theorem Holds.isEmpty_iff (h : r.Holds n) : r.isEmpty = true ↔ r.held = [] := by
  rw [← h.usedSlots_eq_nil_iff, isEmpty, Bool.not_eq_true', ← Array.any_toList,
    List.any_eq_false, usedSlots, List.filter_eq_nil_iff]

theorem Holds.isEmpty_eq_false_iff (h : r.Holds n) : r.isEmpty = false ↔ r.held ≠ [] := by
  rw [← Bool.not_eq_true, h.isEmpty_iff]

/-- The check looks at a full ring apart, where the position behind the run is that of the oldest cursor
again. -/
theorem isSound_iff : r.isSound = true ↔
    1 ≤ r.capacity ∧ r.oldest < r.capacity ∧ r.next < r.capacity ∧ r.held.length = r.size ∧
      r.next = r.position r.size := by
  simp only [isSound, Bool.and_eq_true, decide_eq_true_eq, beq_iff_eq, and_assoc]
  refine and_congr_right fun _ => and_congr_right fun ho => ?_
  by_cases hs : r.size = r.capacity
  · rw [if_pos hs, hs, position_capacity ho, beq_iff_eq]
  · rw [if_neg hs, beq_iff_eq]

theorem Holds.isSound (h : r.Holds n) : r.isSound = true := by
  refine isSound_iff.mpr ⟨h.capacity_pos, h.oldest_lt, h.next_lt, ?_, ?_⟩
  · rw [h.length_held, h.size_eq]
  · rw [h.next_eq, h.size_eq]

/-! ## Rings of one size, one turned against the other -/

/-- Counting from a later slot shifts every count. -/
theorem position_of_oldest (hc : s.capacity = r.capacity) (ho : s.oldest = r.position m) (i : Nat) :
    s.position i = r.position (m + i) := by
  simp only [position] at ho ⊢
  rw [hc, ho, Nat.mod_add_mod, Nat.add_assoc]

/-- A ring that counts from slot `m` of another and uses the slots that the other uses from there on
holds the rest of its run, with the same insertion cursor. -/
theorem Holds.suffix (h : r.Holds n) (hm : m ≤ n) (hc : s.capacity = r.capacity)
    (ho : s.oldest = r.position m) (hx : s.next = r.next)
    (hu : ∀ i < r.capacity, (s.nth i).used = true ↔ i < n - m) : s.Holds (n - m) where
  le_capacity := by rw [hc]; exact le_trans (Nat.sub_le n m) h.le_capacity
  oldest_lt := by rw [ho, hc]; exact position_lt h.capacity_pos m
  next_eq := by rw [hx, h.next_eq, position_of_oldest hc ho, Nat.add_sub_cancel' hm]
  used_iff := by rw [hc]; exact hu

end WindowedLsb.Ring
