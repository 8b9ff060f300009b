import WindowedLsb.Proofs.ListEnd
import WindowedLsb.Proofs.Ring.Ledger
import WindowedLsb.Proofs.Ring.Records

/-!
The insertion cursor counts insertions. An acknowledgment searches for the gap behind the references
that stay and finds it where the cursor stands already.
-/

namespace WindowedLsb

namespace Ring

variable {r : Ring} {n : Nat}

/-! ## Acknowledgments -/

/-- Where the search for a gap ends, told round by round: it goes past as many used slots as there are
references, fewer than there are slots, and stops at a slot that is not used. -/
structure StopsAtGap (r : Ring) : Prop where
  size_lt : r.size < r.capacity
  used : ∀ i < r.size, (r.slot (r.position i)).used = true
  unused : (r.slot (r.position r.size)).used = false
  gapFrom_eq : ∀ steps, r.size ≤ steps → r.gapFrom r.oldest steps = r.position r.size

theorem Holds.stopsAtGap (h : r.Holds n) (hn : n < r.capacity) : r.StopsAtGap where
  size_lt := by rwa [h.size_eq]
  used i hi := by
    rw [h.size_eq] at hi
    exact (h.used_iff i (Nat.lt_trans hi hn)).mpr hi
  unused := by
    rw [h.size_eq]
    exact Bool.eq_false_iff.mpr fun hu => Nat.lt_irrefl n ((h.used_iff n hn).mp hu)
  gapFrom_eq steps hs := by
    rw [h.size_eq] at hs ⊢
    rw [h.gapFrom_oldest hn hs, h.next_eq]

/-- The search that follows when the references through the one with an acknowledged number are
freed. -/
theorem Holds.acknowledge_rescan (h : r.Holds n) {sn : SequenceNumber}
    (hs : ∃ s ∈ r.held, s.number = sn.toWord) : ∃ p, r.find? sn = some p ∧
      (r.dropThrough p).StopsAtGap ∧
      (r.acknowledge sn).next = (r.dropThrough p).gapFrom (r.after p) r.capacity ∧
      (r.acknowledge sn).next = (r.acknowledge sn).position (r.acknowledge sn).size := by
  obtain ⟨before, s, after, -, -, -, hk, hf⟩ | ⟨hnone, -⟩ := h.find?_cases sn
  · have hd := h.dropThrough hk
    have hn := h.le_capacity
    have hlt : n - (before.length + 1) < (r.dropThrough (r.position before.length)).capacity := by
      rw [capacity_dropThrough]
      omega
    have hr : r.acknowledge sn = r.removeThrough (r.position before.length) := by
      rw [acknowledge, hf]
    refine ⟨_, hf, hd.stopsAtGap hlt, ?_, ?_⟩
    · rw [hr, ← capacity_dropThrough r (r.position before.length)]
      rfl
    · rw [hr, h.removeThrough_eq hk, hd.size_eq]
      exact hd.next_eq
  · obtain ⟨s, hs, he⟩ := hs
    exact absurd he (hnone s hs)

/-! ## Counting insertions -/

/-- How many references were inserted behind the last clearing. -/
def insertedSinceClear (actions : List Action) : Nat :=
  (actions.rtakeWhile fun a => a != .clear).countP Action.isInsertion

section
variable (actions : List Action) (sn : SequenceNumber) (value : UInt32)

theorem insertedSinceClear_insert :
    insertedSinceClear (actions ++ [.insert sn value]) = insertedSinceClear actions + 1 := by
  rw [insertedSinceClear, List.rtakeWhile_concat_pos _ _ _ (by simp), List.countP_append]
  rfl

theorem insertedSinceClear_acknowledge :
    insertedSinceClear (actions ++ [.acknowledge sn]) = insertedSinceClear actions := by
  rw [insertedSinceClear, List.rtakeWhile_concat_pos _ _ _ (by simp), List.countP_append]
  rfl

theorem insertedSinceClear_clear : insertedSinceClear (actions ++ [.clear]) = 0 := by
  rw [insertedSinceClear, List.rtakeWhile_concat_neg _ _ _ (by simp)]
  rfl

end

/-- Each action moves the cursor as it moves the count. -/
theorem Holds.next_run (h : r.Holds n) (h0 : r.next = 0) (actions : List Action) :
    (r.run actions).next = insertedSinceClear actions % r.capacity := by
  induction actions using List.reverseRecOn with
  | nil => exact h0.trans (Nat.zero_mod _).symm
  | append_singleton actions a ih =>
      obtain ⟨m, hm⟩ := h.run actions
      have hrun : r.run (actions ++ [a]) = (r.run actions).act a := by
        rw [Ring.run, List.foldl_append]
        rfl
      rw [hrun, hm.next_act]
      cases a with
      | insert sn value =>
          rw [insertedSinceClear_insert, after, ih, h.capacity_run, Nat.mod_add_mod]
      | acknowledge sn => rw [insertedSinceClear_acknowledge, ih]
      | clear => rw [insertedSinceClear_clear, Nat.zero_mod]

end Ring

namespace Window

/-- The insertion cursor tells how many references were inserted since the window was made or cleared.
An acknowledgment moves nothing but the oldest cursor and writes nothing but the marks of use; if it
has found its number, the search that follows ends at a free slot before it is once round, and there
the cursor stood before. -/
theorem acknowledge_keeps_insertion_cursor {memory : Memory} {maxBits : UInt8}
    {capacity : Nat} {shift : Shift} {f : IntervalFunction} {w : Window}
    (hw : create memory maxBits capacity shift f = .ok w)
    (actions : List Ring.Action) :
    (w.run actions).ring.next = Ring.insertedSinceClear actions % capacity ∧
    ∀ sn : SequenceNumber,
      let r := (w.run actions).ring
      let r' := ((w.run actions).act (.acknowledge sn)).ring
      (w.run actions).act (.acknowledge sn) = ⟨r', maxBits, shift, f⟩ ∧
      r'.next = r.next ∧ r'.capacity = capacity ∧ r'.records = r.records ∧
      ((∃ s ∈ r.held, s.number = sn.toWord) → ∃ p, r.find? sn = some p ∧
        (r.dropThrough p).StopsAtGap ∧
        r'.next = (r.dropThrough p).gapFrom (r.after p) capacity ∧
        r'.next = (r'.oldest + r'.size) % capacity) := by
  obtain ⟨-, hc, -, rfl⟩ := create_eq_ok_iff.mp hw
  have h : (Ring.empty capacity).Holds 0 := Ring.holds_empty (Nat.pos_of_ne_zero hc)
  have hempty : (Ring.empty capacity).capacity = capacity := by simp [Ring.empty, Ring.capacity]
  have hcap := (h.capacity_run actions).trans hempty
  obtain ⟨n, hn⟩ := h.run actions
  rw [run_eq]
  refine ⟨?_, fun sn => ⟨rfl, (hn.records_acknowledge sn).2, ?_, (hn.records_acknowledge sn).1,
    fun hs => ?_⟩⟩
  · rw [h.next_run rfl, hempty]
  · exact (hn.capacity_act (.acknowledge sn)).trans hcap
  · obtain ⟨p, hp, hgap, hnext, hposition⟩ := hn.acknowledge_rescan hs
    have hcap' := (hn.capacity_act (.acknowledge sn)).trans hcap
    rw [Ring.act] at hcap'
    rw [hcap] at hnext
    rw [Ring.position, hcap'] at hposition
    exact ⟨p, hp, hgap, hnext, hposition⟩

/-- In a ring of two slots the third reference goes into the first slot. Its acknowledgment frees both
slots across the end of the ring, and the search stops at once. -/
theorem acknowledge_keeps_insertion_cursor_across_end : ∃ w : Window,
    create .ample 16 2 .rtpSequenceNumber standardInterval = .ok w ∧
    let actions : List Ring.Action :=
      [.insert (.ofNat _ 1) 10, .insert (.ofNat _ 2) 20, .insert (.ofNat _ 3) 30]
    (w.run actions).ring.oldest = 1 ∧ (w.run actions).ring.next = 3 % 2 ∧
      ((w.run actions).act (.acknowledge (.ofNat _ 3))).ring.next = 3 % 2 ∧
      ∃ p, (w.run actions).ring.find? (.ofNat _ 3) = some p ∧
        ((w.run actions).ring.dropThrough p).StopsAtGap := by
  have hw := create_ample 16 2 .rtpSequenceNumber standardInterval (by decide) (by decide)
  refine ⟨_, hw, ?_⟩
  intro actions
  obtain ⟨hnext, hack⟩ := acknowledge_keeps_insertion_cursor hw actions
  obtain ⟨-, hkeep, -, -, hscan⟩ := hack (.ofNat _ 3)
  obtain ⟨p, hp, hgap, -⟩ := hscan ⟨⟨3, 30, true⟩, by decide, by decide⟩
  exact ⟨by decide, hnext, hkeep.trans hnext, p, hp, hgap⟩

end Window
end WindowedLsb
