import WindowedLsb.Proofs.Checked.Ring

/-!
The check of the ring invariant. It compares two counts and the cursors, and this is enough to tell a
ring whose used slots are one run between the cursors from any other, whether actions led to it or not.
-/

namespace WindowedLsb

/-! ## The first run of a list -/

section
variable {α : Type*} {p : α → Bool} {l : List α} {i : Nat}

/-- If as many elements satisfy `p` as there are in the run at the start, these are all. -/
theorem getElem_iff_lt_length_takeWhile (h : (l.takeWhile p).length = (l.filter p).length)
    (hi : i < l.length) : p l[i] = true ↔ i < (l.takeWhile p).length := by
  induction l generalizing i with
  | nil => exact absurd hi (Nat.not_lt_zero i)
  | cons x l ih =>
      by_cases hx : p x = true
      · rw [List.takeWhile_cons_of_pos hx, List.filter_cons_of_pos hx, List.length_cons,
          List.length_cons, Nat.add_right_cancel_iff] at h
        rw [List.takeWhile_cons_of_pos hx, List.length_cons]
        cases i with
        | zero => exact iff_of_true hx (Nat.succ_pos _)
        | succ i => exact (ih h (Nat.lt_of_succ_lt_succ hi)).trans Nat.succ_lt_succ_iff.symm
      · -- There is no run, and then nothing satisfies `p`.
        rw [List.takeWhile_cons_of_neg hx] at h ⊢
        have hnone := List.filter_eq_nil_iff.mp (List.length_eq_zero_iff.mp h.symm)
        exact iff_of_false (hnone _ (List.getElem_mem hi)) (Nat.not_lt_zero i)

end

namespace Ring

/-! ## What passes -/

/-- Both cursors lie in the ring. From the oldest cursor on, all used slots come first, and the insertion
cursor stands behind them. -/
structure IsOneRun (r : Ring) : Prop where
  capacity_pos : 1 ≤ r.capacity
  oldest_lt : r.oldest < r.capacity
  next_lt : r.next < r.capacity
  used_iff : ∀ p < r.capacity,
    (r.slot p).used = true ↔ ∃ i < r.size, (r.oldest + i) % r.capacity = p
  next_eq : r.next = (r.oldest + r.size) % r.capacity

variable {r : Ring} {i n : Nat}

theorem used_nth_iff (h : r.held.length = r.size) (hi : i < r.capacity) :
    (r.nth i).used = true ↔ i < r.size := by
  have hlen : i < (r.positions.map r.slot).length := by simpa [positions] using hi
  have hget : (r.positions.map r.slot)[i] = r.nth i := by simp [positions, nth]
  have hcount : ((r.positions.map r.slot).takeWhile Slot.used).length =
      ((r.positions.map r.slot).filter Slot.used).length :=
    h.trans r.usedSlots_perm_filter.length_eq
  rw [← hget, getElem_iff_lt_length_takeWhile hcount hlen, ← h]
  rfl

theorem isSound_iff_holds : r.isSound = true ↔ r.Holds r.size := by
  refine ⟨fun h => ?_, fun h => h.isSound⟩
  obtain ⟨-, ho, -, hlen, hnext⟩ := isSound_iff.mp h
  exact ⟨r.size_le_capacity, ho, hnext, fun i hi => used_nth_iff hlen hi⟩

theorem exists_position_eq_iff (hn : n ≤ r.capacity) (hi : i < r.capacity) :
    (∃ j < n, r.position j = r.position i) ↔ i < n := by
  constructor
  · rintro ⟨j, hj, he⟩
    have hji := (position_inj (Nat.lt_of_lt_of_le hj hn) hi).mp he
    exact hji ▸ hj
  · exact fun h => ⟨i, h, rfl⟩

/-- Slot by slot or in ring order, the same slots are used. -/
theorem isOneRun_iff_holds : r.IsOneRun ↔ r.Holds r.size := by
  constructor
  · intro h
    refine ⟨r.size_le_capacity, h.oldest_lt, h.next_eq, fun i hi => ?_⟩
    rw [nth, h.used_iff _ (position_lt h.capacity_pos i)]
    exact exists_position_eq_iff r.size_le_capacity hi
  · intro h
    refine ⟨h.capacity_pos, h.oldest_lt, h.next_lt, fun p hp => ?_, h.next_eq⟩
    obtain ⟨i, hi, rfl⟩ := exists_position h.oldest_lt hp
    rw [← nth, h.used_iff i hi]
    exact (exists_position_eq_iff h.le_capacity hi).symm

/-! ## Actions -/

theorem isSound_act (h : r.isSound = true) (a : Action) : (r.act a).isSound = true := by
  obtain ⟨m, hm⟩ := (isSound_iff_holds.mp h).act a
  exact hm.isSound

theorem isSound_run (h : r.isSound = true) (actions : List Action) :
    (r.run actions).isSound = true := by
  induction actions generalizing r with
  | nil => exact h
  | cons a actions ih => exact ih (isSound_act h a)

/-- The check of a ring is exact. Of all rings, reached by actions or not, just those pass whose used slots
are one run between the cursors, and every action takes a ring that passes to a ring that passes,
whatever the free slots hold. As long as the slots fit in memory, the check stops a program by its
assertions and in no other way, and no run traps that starts from a ring that passes. -/
theorem soundness_check_exact (r : Ring) :
    (r.isSound = true ↔ r.IsOneRun) ∧
    (r.isSound = true → ∀ a : Action, (r.act a).isSound = true) ∧
    (r.capacity < 2 ^ 63 →
      Checked.Ring.validate r = (if r.isSound then .ok () else .error .assertion) ∧
      (r.isSound = true → ∀ actions : List Action,
        Checked.Ring.run r actions = .ok (r.run actions, r.runEvents actions) ∧
        Checked.Ring.validate (r.run actions) = .ok ())) := by
  refine ⟨isSound_iff_holds.trans isOneRun_iff_holds.symm, isSound_act, fun hc => ?_⟩
  refine ⟨Checked.Ring.validate_eq hc, fun hs actions => ?_⟩
  have h := isSound_iff_holds.mp hs
  have hc' : (r.run actions).capacity < 2 ^ 63 := by rwa [h.capacity_run]
  refine ⟨Checked.Ring.run_eq_ok h hc actions, ?_⟩
  rw [Checked.Ring.validate_eq hc', if_pos (isSound_run hs actions)]

/-- Two references across the end of the ring, and between them a free slot with a number too large for
any packet. No run makes this ring, but it passes; with the oldest cursor one step on it has a gap, and
fails. -/
theorem soundness_check_exact_foreign_number :
    let r : Ring := ⟨#[⟨2, 20, true⟩, ⟨70000, 5, false⟩, ⟨1, 10, true⟩], 2, 1⟩
    let gap : Ring := { r with oldest := 0 }
    r.IsOneRun ∧ (r.act (.insert (.ofNat _ 3) 30)).isSound = true ∧
      Checked.Ring.run r [.acknowledge (.ofNat _ 1)] =
        .ok (⟨#[⟨2, 20, true⟩, ⟨70000, 5, false⟩, ⟨1, 10, false⟩], 0, 1⟩, [.compacted 2 1 0 1]) ∧
      ¬gap.IsOneRun ∧ Checked.Ring.validate gap = .error .assertion := by
  intro r gap
  obtain ⟨hiff, hact, hchecked⟩ := soundness_check_exact r
  obtain ⟨-, hrun⟩ := hchecked (by decide)
  obtain ⟨hiff', -, hchecked'⟩ := soundness_check_exact gap
  obtain ⟨hfails, -⟩ := hchecked' (by decide)
  have hpasses : r.isSound = true := by decide
  refine ⟨hiff.mp hpasses, hact hpasses _, (hrun hpasses _).1.trans ?_, hiff'.not.mp (by decide), hfails⟩
  decide

end Ring
end WindowedLsb
