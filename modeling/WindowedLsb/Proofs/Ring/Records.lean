import WindowedLsb.Proofs.Ring.Queue

/-!
What is written in the slots, used or free. Only insertions write, and the numbers written, the
insertion cursor and the length of the run make up the whole ring.
-/

namespace WindowedLsb

theorem Slot.eq_of_entry {x y : Slot} (he : x.entry = y.entry) (hu : x.used = y.used) : x = y := by
  cases x
  cases y
  simp only [Slot.entry, Prod.mk.injEq] at he
  rw [Slot.mk.injEq]
  exact ⟨he.1, he.2, hu⟩

namespace Ring

/-- The entries in the slots, in slot order, old ones included. -/
def records (r : Ring) : Array Entry := r.slots.map Slot.entry

variable {r s : Ring} {m n : Nat}

theorem size_records (r : Ring) : r.records.size = r.capacity := Array.size_map

/-! ## Actions -/

theorem records_insert (r : Ring) (sn : SequenceNumber) (value : UInt32) :
    (r.insert sn value).records = r.records.setIfInBounds r.next (sn.toWord, value) :=
  Array.map_setIfInBounds

theorem records_freeFirst (r : Ring) (count : Nat) :
    (r.freeFirst count).map Slot.entry = r.records := by
  induction count with
  | zero => rfl
  | succ count ih =>
      rw [← ih, freeFirst_succ]
      apply Array.ext
      · simp
      · intro p hp hp'
        simp only [Array.getElem_map, Array.getElem_modify]
        split <;> rfl

theorem Holds.records_acknowledge (h : r.Holds n) (sn : SequenceNumber) :
    (r.acknowledge sn).records = r.records ∧ (r.acknowledge sn).next = r.next := by
  rcases h.acknowledge_cases sn with ⟨_, _, _, _, _, _, _, he⟩ | ⟨_, he⟩
  · rw [he]
    exact ⟨records_freeFirst r _, rfl⟩
  · rw [he]
    exact ⟨rfl, rfl⟩

/-- Only insertions move the insertion cursor, and clearing puts it back to the first slot. -/
theorem Holds.next_act (h : r.Holds n) (a : Action) : (r.act a).next =
    match a with
    | .insert _ _ => r.after r.next
    | .acknowledge _ => r.next
    | .clear => 0 := by
  cases a with
  | insert sn value => rfl
  | acknowledge sn => exact (h.records_acknowledge sn).2
  | clear => rfl

theorem records_insert_congr (hr : r.records = s.records) (hx : r.next = s.next)
    (sn : SequenceNumber) (value : UInt32) :
    (r.insert sn value).records = (s.insert sn value).records ∧
      (r.insert sn value).next = (s.insert sn value).next := by
  have hc : r.capacity = s.capacity := by rw [← size_records, hr, size_records]
  refine ⟨by rw [records_insert, records_insert, hr, hx], ?_⟩
  simp only [insert, after, hx, hc]

/-! ## The whole ring -/

theorem Holds.oldest_eq (h : r.Holds n) (hs : s.Holds n) (hc : r.capacity = s.capacity)
    (hx : r.next = s.next) : r.oldest = s.oldest := by
  rw [h.next_eq, hs.next_eq, position, position, hc] at hx
  have hmod : r.oldest ≡ s.oldest [MOD s.capacity] := Nat.ModEq.add_right_cancel' n hx
  exact hmod.eq_of_lt_of_lt (hc ▸ h.oldest_lt) hs.oldest_lt

/-- Two rings with the same records, insertion cursor and number of references are the same. -/
theorem Holds.eq_of_records (h : r.Holds n) (hs : s.Holds n) (hr : r.records = s.records)
    (hx : r.next = s.next) : r = s := by
  have hc : r.capacity = s.capacity := by rw [← size_records, hr, size_records]
  have ho := h.oldest_eq hs hc hx
  have hslots : r.slots = s.slots := by
    refine Array.ext hc fun p hp hp' => ?_
    obtain ⟨i, hi, hpi⟩ := exists_position h.oldest_lt hp
    have hpi' : s.position i = p := by rw [← hpi, position, position, ho, hc]
    have hu := h.used_iff i hi
    have hu' := hs.used_iff i (hc ▸ hi)
    simp only [nth, hpi, hpi', slot, Array.getD_eq_getD_getElem?, Array.getElem?_eq_getElem hp,
      Array.getElem?_eq_getElem hp', Option.getD_some] at hu hu'
    have he : r.slots[p].entry = s.slots[p].entry := by
      have hm : r.records[p]? = s.records[p]? := by rw [hr]
      simpa only [records, Array.getElem?_map, Array.getElem?_eq_getElem hp,
        Array.getElem?_eq_getElem hp', Option.map_some, Option.some.injEq] using hm
    have hused : r.slots[p].used = s.slots[p].used := Bool.eq_iff_iff.mpr (hu.trans hu'.symm)
    exact Slot.eq_of_entry he hused
  cases r
  cases s
  rw [Ring.mk.injEq]
  exact ⟨hslots, ho, hx⟩

end Ring
end WindowedLsb
