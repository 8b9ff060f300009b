import Mathlib.Data.List.Rotate
import Mathlib.Data.Nat.ModEq
import WindowedLsb.Ring

/-!
Ring order: the slots counted from the oldest cursor, and which of them a write changes.
-/

namespace WindowedLsb.Ring

/-- The slot `i` steps after the oldest cursor. -/
def nth (r : Ring) (i : Nat) : Slot := r.slot (r.position i)

variable {r : Ring} {i j p : Nat}

/-! ## Positions -/

theorem position_lt (hc : 0 < r.capacity) (i : Nat) : r.position i < r.capacity :=
  Nat.mod_lt _ hc

theorem position_zero (ho : r.oldest < r.capacity) : r.position 0 = r.oldest :=
  Nat.mod_eq_of_lt ho

theorem position_add_capacity (r : Ring) (i : Nat) : r.position (i + r.capacity) = r.position i := by
  unfold position
  rw [← Nat.add_assoc, Nat.add_mod_right]

theorem position_capacity (ho : r.oldest < r.capacity) : r.position r.capacity = r.oldest := by
  have h := position_add_capacity r 0
  rw [Nat.zero_add] at h
  exact h.trans (position_zero ho)

theorem after_position (r : Ring) (i : Nat) : r.after (r.position i) = r.position (i + 1) := by
  unfold after position
  rw [Nat.mod_add_mod, Nat.add_assoc]

theorem position_inj (hi : i < r.capacity) (hj : j < r.capacity) :
    r.position i = r.position j ↔ i = j := by
  refine ⟨fun h => ?_, fun h => h ▸ rfl⟩
  have hm : i ≡ j [MOD r.capacity] := Nat.ModEq.add_left_cancel' r.oldest h
  exact Nat.ModEq.eq_of_lt_of_lt hm hi hj

theorem position_distance (ho : r.oldest < r.capacity) (hp : p < r.capacity) :
    r.position ((p + r.capacity - r.oldest) % r.capacity) = p := by
  unfold position
  rw [Nat.add_mod_mod, show r.oldest + (p + r.capacity - r.oldest) = p + r.capacity by omega,
    Nat.add_mod_right, Nat.mod_eq_of_lt hp]

theorem exists_position (ho : r.oldest < r.capacity) (hp : p < r.capacity) :
    ∃ i < r.capacity, r.position i = p :=
  ⟨_, Nat.mod_lt _ (Nat.zero_lt_of_lt ho), position_distance ho hp⟩

theorem span_position (ho : r.oldest < r.capacity) (hi : i < r.capacity) :
    r.span (r.position i) = i + 1 := by
  have hc : 0 < r.capacity := Nat.zero_lt_of_lt ho
  have hp : r.position ((r.position i + r.capacity - r.oldest) % r.capacity) = r.position i :=
    position_distance ho (position_lt hc i)
  have hd := (position_inj (Nat.mod_lt _ hc) hi).mp hp
  rw [span, hd]

/-- Read in ring order, the slots are the stored ones turned round to the oldest cursor. -/
theorem map_slot_positions (r : Ring) : r.positions.map r.slot = r.slots.toList.rotate r.oldest := by
  apply List.ext_getElem
  · simp [positions, capacity]
  · intro i hi hi'
    have hc : i < r.slots.size := by simpa [positions, capacity] using hi
    have hp : (r.oldest + i) % r.slots.size < r.slots.size := Nat.mod_lt _ (by omega)
    simp [positions, List.getElem_rotate, slot, position, capacity, Nat.add_comm i, hp]

/-! ## Writes -/

@[simp] theorem capacity_insert (r : Ring) (sn : SequenceNumber) (value : UInt32) :
    (r.insert sn value).capacity = r.capacity := by simp [capacity, insert]

theorem slot_insert (r : Ring) (sn : SequenceNumber) (value : UInt32) (hp : p < r.capacity) :
    (r.insert sn value).slot p = if p = r.next then ⟨sn.toWord, value, true⟩ else r.slot p := by
  have hs : p < r.slots.size := hp
  by_cases h : p = r.next
  · subst h
    simp [slot, insert, hs]
  · simp [slot, insert, h, Ne.symm h]

@[simp] theorem size_freeFirst (r : Ring) (count : Nat) : (r.freeFirst count).size = r.capacity := by
  unfold freeFirst
  induction count with
  | zero => rfl
  | succ count ih => simpa [List.range_succ] using ih

theorem freeFirst_succ (r : Ring) (count : Nat) :
    r.freeFirst (count + 1) = (r.freeFirst count).modify (r.position count) Slot.free := by
  simp [freeFirst, List.range_succ]

theorem freeFirst_position {count : Nat} (hn : count ≤ r.capacity) (hi : i < r.capacity) :
    (r.freeFirst count).getD (r.position i) default =
      if i < count then (r.nth i).free else r.nth i := by
  induction count with
  | zero => simp [freeFirst, nth, slot]
  | succ count ih =>
      have hs : r.position i < (r.freeFirst count).size := by
        rw [size_freeFirst]
        exact position_lt (by omega) i
      have hw := ih (by omega)
      rw [freeFirst_succ]
      simp only [Array.getD_eq_getD_getElem?, Array.getElem?_modify,
        Array.getElem?_eq_getElem hs, Option.getD_some] at hw ⊢
      by_cases he : i = count
      · subst he
        simp [hw]
      · have hp : r.position count ≠ r.position i := fun h =>
          he ((position_inj (by omega) hi).mp h).symm
        have hlt : i < count + 1 ↔ i < count := by omega
        simp [hp, hw, hlt]

end WindowedLsb.Ring
