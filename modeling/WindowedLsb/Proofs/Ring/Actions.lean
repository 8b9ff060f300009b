import WindowedLsb.Proofs.Ring.Invariant

/-!
What each action makes of the run of references: insertion extends it at its end, a full ring
moving on at its start as well; acknowledgment cuts its start off.
-/

namespace WindowedLsb.Ring

variable {r : Ring} {i k m n : Nat}

/-! ## Insertion -/

theorem Holds.isFull_iff (h : r.Holds n) : r.isFull = true ↔ n = r.capacity := by
  rw [isFull, h.next_eq]
  by_cases hn : n = r.capacity
  · have hp : r.position n = r.position 0 := by
      rw [hn, position_capacity h.oldest_lt, position_zero h.oldest_lt]
    have hu := (h.used_iff 0 h.capacity_pos).mpr (hn ▸ h.capacity_pos)
    rw [hp]
    exact iff_of_true hu hn
  · have hlt : n < r.capacity := Nat.lt_of_le_of_ne h.le_capacity hn
    have hu := h.used_iff n hlt
    exact hu.trans (iff_of_false (Nat.lt_irrefl n) hn)

theorem Holds.oldest_insert (h : r.Holds n) (sn : SequenceNumber) (value : UInt32) :
    (r.insert sn value).oldest = r.position (if n = r.capacity then 1 else 0) := by
  have hf := h.isFull_iff
  have h0 := position_zero h.oldest_lt
  simp only [insert, hf]
  split
  · rw [← h0, after_position]
  · rw [h0]

/-- After an insertion the slots in ring order are those that stay, then the new one. -/
theorem Holds.nth_insert (h : r.Holds n) (sn : SequenceNumber) (value : UInt32)
    (hi : i < r.capacity) :
    (r.insert sn value).nth i =
      if n = r.capacity then
        if i + 1 = r.capacity then ⟨sn.toWord, value, true⟩ else r.nth (i + 1)
      else if i = n then ⟨sn.toWord, value, true⟩ else r.nth i := by
  have hp := position_of_oldest (capacity_insert r sn value) (h.oldest_insert sn value) i
  rw [nth, hp, slot_insert r sn value (position_lt h.capacity_pos _), h.next_eq]
  by_cases hn : n = r.capacity
  · -- The slot written is the oldest one, which the turned ring counts last.
    have hw : r.position n = r.position r.capacity := by rw [hn]
    rw [if_pos hn, if_pos hn, Nat.add_comm 1 i, hw]
    by_cases he : i + 1 = r.capacity
    · rw [if_pos he, he, if_pos rfl]
    · have hne : r.position (i + 1) ≠ r.position r.capacity := by
        rw [position_capacity h.oldest_lt, ← position_zero h.oldest_lt]
        intro hp
        have := (position_inj (by omega) h.capacity_pos).mp hp
        omega
      rw [if_neg hne, if_neg he, nth]
  · have hlt : n < r.capacity := Nat.lt_of_le_of_ne h.le_capacity hn
    rw [if_neg hn, if_neg hn, Nat.zero_add]
    simp only [position_inj hi hlt, nth]

theorem Holds.insert (h : r.Holds n) (sn : SequenceNumber) (value : UInt32) :
    (r.insert sn value).Holds (if n = r.capacity then n else n + 1) where
  le_capacity := by
    have := h.le_capacity
    rw [capacity_insert]
    split <;> omega
  oldest_lt := by
    rw [capacity_insert, h.oldest_insert sn value]
    exact position_lt h.capacity_pos _
  next_eq := by
    rw [position_of_oldest (capacity_insert r sn value) (h.oldest_insert sn value)]
    have hx : (r.insert sn value).next = r.position (n + 1) := by
      rw [← after_position, ← h.next_eq]
      rfl
    rw [hx]
    split
    · rw [Nat.add_comm]
    · rw [Nat.zero_add]
  used_iff i hi := by
    rw [capacity_insert] at hi
    rw [h.nth_insert sn value hi]
    have hu := h.used_iff i hi
    have hu' := h.used_iff (i + 1)
    by_cases hn : n = r.capacity
    · simp only [if_pos hn]
      split
      · simp [hn, hi]
      · rw [hu' (by omega)]
        omega
    · simp only [if_neg hn]
      split
      · simp; omega
      · rw [hu]
        omega

theorem Holds.held_insert (h : r.Holds n) (sn : SequenceNumber) (value : UInt32) :
    (r.insert sn value).held =
      if n = r.capacity then r.held.tail ++ [⟨sn.toWord, value, true⟩]
      else r.held ++ [⟨sn.toWord, value, true⟩] := by
  have hins := h.insert sn value
  have hlen := h.length_held
  have hle := h.le_capacity
  by_cases hn : n = r.capacity
  · rw [if_pos hn] at hins ⊢
    have hpos := h.capacity_pos
    apply List.ext_getElem
    · rw [hins.length_held, List.length_append, List.length_tail, hlen, List.length_singleton]
      omega
    · intro i hi hi'
      rw [hins.length_held] at hi
      rw [hins.getElem_held, h.nth_insert sn value (by omega), if_pos hn]
      by_cases he : i + 1 = r.capacity
      · rw [if_pos he, List.getElem_append_right (by simp [hlen]; omega)]
        simp
      · rw [if_neg he, List.getElem_append_left (by simp [hlen]; omega), List.getElem_tail,
          h.getElem_held]
  · rw [if_neg hn] at hins ⊢
    apply List.ext_getElem
    · rw [hins.length_held, List.length_append, hlen, List.length_singleton]
    · intro i hi hi'
      rw [hins.length_held] at hi
      rw [hins.getElem_held, h.nth_insert sn value (by omega), if_neg hn]
      by_cases he : i = n
      · rw [if_pos he, List.getElem_append_right (by omega)]
        simp
      · rw [if_neg he, List.getElem_append_left (by omega), h.getElem_held]

/-! ## Acknowledgment -/

/-- The search for a packet number is a search of the references held, oldest first. -/
theorem Holds.find?_eq (h : r.Holds n) (sn : SequenceNumber) :
    r.find? sn = (r.held.findIdx? fun s => s.number == sn.toWord).map r.position := by
  rw [find?, positions, List.find?_map]
  congr 1
  cases hf : r.held.findIdx? fun s => s.number == sn.toWord with
  | none =>
      rw [List.findIdx?_eq_none_iff] at hf
      rw [List.find?_range_eq_none]
      intro i hi
      by_cases hn : i < n
      · have hm : r.nth i ∈ r.held := by
          rw [h.held_eq]
          exact List.mem_map_of_mem (List.mem_range.mpr hn)
        have hs := hf _ hm
        simp only [nth] at hs
        simp [hs]
      · have hu := (h.used_iff i hi).not.mpr hn
        simp only [nth] at hu
        simp [hu]
  | some k =>
      obtain ⟨hk, hs, hb⟩ := List.findIdx?_eq_some_iff_getElem.mp hf
      have hkn : k < n := h.length_held ▸ hk
      have hkc : k < r.capacity := Nat.lt_of_lt_of_le hkn h.le_capacity
      rw [List.find?_range_eq_some]
      rw [h.getElem_held] at hs
      have hu := (h.used_iff k hkc).mpr hkn
      refine ⟨?_, List.mem_range.mpr hkc, ?_⟩
      · simp only [nth] at hs hu
        simp [hs, hu]
      · intro j hj
        have hne := hb j hj
        rw [h.getElem_held] at hne
        simp only [nth] at hne
        simp [hne]

/-- The references through position `p` freed, and the insertion cursor left where it is. -/
def dropThrough (r : Ring) (p : Nat) : Ring := ⟨r.freeFirst (r.span p), r.after p, r.next⟩

@[simp] theorem capacity_dropThrough (r : Ring) (p : Nat) :
    (r.dropThrough p).capacity = r.capacity := by simp [capacity, dropThrough]

theorem oldest_dropThrough (r : Ring) (k : Nat) :
    (r.dropThrough (r.position k)).oldest = r.position (k + 1) := after_position r k

/-- The slots behind the one dropped come first in ring order, and the freed ones last. -/
theorem nth_dropThrough (ho : r.oldest < r.capacity) (hk : k < r.capacity)
    (hi : i < r.capacity) : (r.dropThrough (r.position k)).nth i =
      if k + 1 + i < r.capacity then r.nth (k + 1 + i)
      else (r.nth (k + 1 + i - r.capacity)).free := by
  have hp := position_of_oldest (capacity_dropThrough r (r.position k)) (oldest_dropThrough r k) i
  have hs : (r.dropThrough (r.position k)).slot (r.position (k + 1 + i)) =
      (r.freeFirst (k + 1)).getD (r.position (k + 1 + i)) default := by
    rw [← span_position ho hk]
    rfl
  rw [nth, hp, hs]
  by_cases hw : k + 1 + i < r.capacity
  · rw [freeFirst_position (by omega) hw, if_pos hw, if_neg (by omega)]
  · have hwrap := position_add_capacity r (k + 1 + i - r.capacity)
    rw [Nat.sub_add_cancel (by omega)] at hwrap
    rw [hwrap, freeFirst_position (by omega) (by omega), if_neg hw, if_pos (by omega)]

theorem Holds.dropThrough (h : r.Holds n) (hk : k < n) :
    (r.dropThrough (r.position k)).Holds (n - (k + 1)) := by
  have hn := h.le_capacity
  refine h.suffix hk (capacity_dropThrough r _) (oldest_dropThrough r k) rfl ?_
  intro i hi
  rw [nth_dropThrough h.oldest_lt (by omega) hi]
  split
  · rename_i hw
    rw [h.used_iff _ hw]
    omega
  · simp only [Slot.free, Bool.false_eq_true, false_iff]
    omega

theorem Holds.held_dropThrough (h : r.Holds n) (hk : k < n) :
    (r.dropThrough (r.position k)).held = r.held.drop (k + 1) := by
  have hd := h.dropThrough hk
  have hn := h.le_capacity
  apply List.ext_getElem
  · rw [hd.length_held, List.length_drop, h.length_held]
  · intro i hi hi'
    rw [hd.length_held] at hi
    rw [hd.getElem_held, nth_dropThrough h.oldest_lt (by omega) (by omega), if_pos (by omega),
      List.getElem_drop, h.getElem_held]

/-- The search for a gap stops at the first slot that is not used, if the steps reach so far. -/
theorem gapFrom_position (r : Ring) {steps : Nat} (hk : k ≤ m) (hs : m - k ≤ steps)
    (hused : ∀ j, k ≤ j → j < m → (r.nth j).used = true) (hfree : (r.nth m).used = false) :
    r.gapFrom (r.position k) steps = r.position m := by
  induction steps generalizing k with
  | zero =>
      obtain rfl : k = m := by omega
      rfl
  | succ steps ih =>
      rw [gapFrom]
      by_cases he : k = m
      · subst he
        exact if_neg (Bool.eq_false_iff.mp hfree)
      · have hk' : (r.slot (r.position k)).used = true := hused k (Nat.le_refl k) (by omega)
        rw [if_pos hk', after_position]
        exact ih (by omega) (by omega) fun j hj => hused j (by omega)

/-- In a ring with a free slot the search for a gap from the oldest cursor on ends at the insertion
cursor, behind all references. -/
theorem Holds.gapFrom_oldest (h : r.Holds n) (hn : n < r.capacity) {steps : Nat} (hs : n ≤ steps) :
    r.gapFrom r.oldest steps = r.next := by
  have hused : ∀ j, 0 ≤ j → j < n → (r.nth j).used = true :=
    fun j _ hj => (h.used_iff j (Nat.lt_trans hj hn)).mpr hj
  have hfree : (r.nth n).used = false :=
    Bool.eq_false_iff.mpr fun hu => Nat.lt_irrefl n ((h.used_iff n hn).mp hu)
  have hgap : r.gapFrom (r.position 0) steps = r.position n :=
    gapFrom_position r (Nat.zero_le n) hs hused hfree
  rwa [position_zero h.oldest_lt, ← h.next_eq] at hgap

/-- The gap behind the references that stay is where the insertion cursor stands already, so looking
for it changes nothing. -/
theorem Holds.removeThrough_eq (h : r.Holds n) (hk : k < n) :
    r.removeThrough (r.position k) = r.dropThrough (r.position k) := by
  have hd := h.dropThrough hk
  have hn := h.le_capacity
  have hc := capacity_dropThrough r (r.position k)
  have he : r.removeThrough (r.position k) = { r.dropThrough (r.position k) with
      next := (r.dropThrough (r.position k)).gapFrom (r.dropThrough (r.position k)).oldest
        (r.dropThrough (r.position k)).capacity } := rfl
  rw [he, hd.gapFrom_oldest (by omega) (by omega)]

/-- Either the packet number is held, and the search finds the first reference that has it, or it is
not. -/
theorem Holds.find?_cases (h : r.Holds n) (sn : SequenceNumber) :
    (∃ before s after, r.held = before ++ s :: after ∧ (∀ t ∈ before, t.number ≠ sn.toWord) ∧
      s.number = sn.toWord ∧ before.length < n ∧
      r.find? sn = some (r.position before.length)) ∨
    ((∀ t ∈ r.held, t.number ≠ sn.toWord) ∧ r.find? sn = none) := by
  cases hf : r.held.findIdx? fun s => s.number == sn.toWord with
  | none =>
      rw [List.findIdx?_eq_none_iff] at hf
      refine Or.inr ⟨fun t ht => by simpa using hf t ht, ?_⟩
      rw [h.find?_eq, List.findIdx?_eq_none_iff.mpr hf]
      rfl
  | some k =>
      obtain ⟨hk, hs, hb⟩ := List.findIdx?_eq_some_iff_getElem.mp hf
      have hkn : k < n := h.length_held ▸ hk
      have hlen : (r.held.take k).length = k := List.length_take_of_le (Nat.le_of_lt hk)
      refine Or.inl ⟨r.held.take k, r.held[k], r.held.drop (k + 1), ?_, ?_, by simpa using hs, ?_, ?_⟩
      · rw [← List.drop_eq_getElem_cons hk, List.take_append_drop]
      · intro t ht
        obtain ⟨j, hj, rfl⟩ := List.mem_take_iff_getElem.mp ht
        simpa using hb j (by omega)
      · rw [hlen]
        exact hkn
      · rw [hlen, h.find?_eq, hf]
        rfl

/-- Either the packet number is held, and the references through the first that has it go, or it is
not, and nothing changes. -/
theorem Holds.acknowledge_cases (h : r.Holds n) (sn : SequenceNumber) :
    (∃ before s after, r.held = before ++ s :: after ∧ (∀ t ∈ before, t.number ≠ sn.toWord) ∧
      s.number = sn.toWord ∧ before.length < n ∧
      r.acknowledge sn = r.dropThrough (r.position before.length)) ∨
    ((∀ t ∈ r.held, t.number ≠ sn.toWord) ∧ r.acknowledge sn = r) := by
  rcases h.find?_cases sn with ⟨before, s, after, hheld, hb, hs, hk, hf⟩ | ⟨hnone, hf⟩
  · refine Or.inl ⟨before, s, after, hheld, hb, hs, hk, ?_⟩
    rw [acknowledge, hf]
    exact h.removeThrough_eq hk
  · refine Or.inr ⟨hnone, ?_⟩
    rw [acknowledge, hf]

/-- The same, told by the references that stay. -/
theorem Holds.held_acknowledge_cases (h : r.Holds n) (sn : SequenceNumber) :
    (∃ before s, r.held = before ++ s :: (r.acknowledge sn).held ∧
      (∀ t ∈ before, t.number ≠ sn.toWord) ∧ s.number = sn.toWord) ∨
    ((∀ t ∈ r.held, t.number ≠ sn.toWord) ∧ r.acknowledge sn = r) := by
  obtain ⟨before, s, after, hheld, hb, hs, hk, he⟩ | hnone := h.acknowledge_cases sn
  · refine Or.inl ⟨before, s, ?_, hb, hs⟩
    rw [he, h.held_dropThrough hk, hheld]
    simp
  · exact Or.inr hnone

theorem Holds.held_acknowledge_suffix (h : r.Holds n) (sn : SequenceNumber) :
    (r.acknowledge sn).held <:+ r.held := by
  obtain ⟨before, s, hheld, -, -⟩ | ⟨-, he⟩ := h.held_acknowledge_cases sn
  · exact ⟨before ++ [s], by rw [hheld, List.append_assoc, List.singleton_append]⟩
  · rw [he]

/-! ## Runs -/

theorem Holds.act (h : r.Holds n) (a : Action) : ∃ m, (r.act a).Holds m := by
  cases a with
  | insert sn value => exact ⟨_, h.insert sn value⟩
  | acknowledge sn =>
      rw [Ring.act]
      rcases h.acknowledge_cases sn with ⟨_, _, _, _, _, _, hk, he⟩ | ⟨_, he⟩
      · exact ⟨_, he ▸ h.dropThrough hk⟩
      · exact ⟨n, he.symm ▸ h⟩
  | clear => exact ⟨0, holds_empty h.capacity_pos⟩

theorem Holds.run (h : r.Holds n) (actions : List Action) : ∃ m, (r.run actions).Holds m := by
  induction actions generalizing r n with
  | nil => exact ⟨n, h⟩
  | cons a actions ih =>
      obtain ⟨m, hm⟩ := h.act a
      exact ih hm

theorem Holds.capacity_act (h : r.Holds n) (a : Action) : (r.act a).capacity = r.capacity := by
  cases a with
  | insert sn value => exact capacity_insert r sn value
  | acknowledge sn =>
      rw [Ring.act]
      rcases h.acknowledge_cases sn with ⟨_, _, _, _, _, _, _, he⟩ | ⟨_, he⟩
      · rw [he, capacity_dropThrough]
      · rw [he]
  | clear => simp [Ring.act, clear, empty, capacity]

theorem Holds.capacity_run (h : r.Holds n) (actions : List Action) :
    (r.run actions).capacity = r.capacity := by
  induction actions generalizing r n with
  | nil => rfl
  | cons a actions ih =>
      obtain ⟨m, hm⟩ := h.act a
      exact (ih hm).trans (h.capacity_act a)

end WindowedLsb.Ring
