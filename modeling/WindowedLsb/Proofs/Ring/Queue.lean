import Mathlib.Algebra.BigOperators.Group.List.Basic
import WindowedLsb.Proofs.ListEnd
import WindowedLsb.Proofs.Reachable

/-!
A ring is a bounded first-in first-out queue. The view of the queue determines all others, so that
neither the place of the run nor the numbers left in free slots show.
-/

namespace WindowedLsb

/-- A packet number and the value recorded under it. -/
abbrev Entry := UInt32 × UInt32

def Slot.entry (s : Slot) : Entry := (s.number, s.value)

namespace Ring

/-- The entries of the references held, oldest first. -/
def queue (r : Ring) : List Entry := r.held.map Slot.entry

variable {r : Ring} {n : Nat}

theorem Holds.length_queue (h : r.Holds n) : r.queue.length = n := by
  rw [queue, List.length_map, h.length_held]

/-- The references held are all in use, so that their entries say all about them. -/
theorem held_eq_queue (r : Ring) : r.held = r.queue.map fun e => ⟨e.1, e.2, true⟩ := by
  rw [queue, List.map_map]
  conv_lhs => rw [← List.map_id r.held]
  apply List.map_congr_left
  intro s hs
  have hused : s.used = true := List.mem_takeWhile_imp hs
  rw [Function.comp_apply, Slot.entry, ← hused]
  rfl

/-! ## Views -/

/-- The sum of the values, as an unbounded number. -/
def total (q : List Entry) : Nat := (q.map fun e => e.2.toNat).sum

/-- What a ring shows of the queue it holds. -/
structure Shows (r : Ring) (q : List Entry) : Prop where
  queue_eq : r.queue = q
  /-- The run is as long as the queue, and lies between the cursors. -/
  holds : r.Holds q.length
  isSound : r.isSound = true
  size_eq : r.size = q.length
  isEmpty_iff : r.isEmpty = true ↔ q = []
  sum_eq : r.sum.toNat = total q % 2 ^ 64
  mean_eq : r.mean.toNat = if q = [] then 0 else total q % 2 ^ 64 / q.length % 2 ^ 32
  /-- As long as the sum must fit its word, both are exact. -/
  exact_of_le : q.length ≤ 2 ^ 32 → r.sum.toNat = total q ∧ r.mean.toNat = total q / q.length

theorem total_cons (s : Slot) (l : List Slot) :
    total ((s :: l).map Slot.entry) = s.value.toNat + total (l.map Slot.entry) := by
  simp [total, Slot.entry]

theorem foldl_value_toNat (l : List Slot) (acc : UInt64) :
    (l.foldl (fun total s => total + s.value.toUInt64) acc).toNat =
      (acc.toNat + total (l.map Slot.entry)) % 2 ^ 64 := by
  induction l generalizing acc with
  | nil =>
      have := acc.toNat_lt
      simp only [List.foldl_nil, total, List.map_nil, List.sum_nil]
      omega
  | cons s l ih =>
      rw [List.foldl_cons, ih, total_cons, UInt64.toNat_add, UInt32.toNat_toUInt64, Nat.mod_add_mod,
        Nat.add_assoc]

/-- Added up in the order of the slots, the values make as much as in the order of the queue. -/
theorem Holds.total_usedSlots (h : r.Holds n) : total (r.usedSlots.map Slot.entry) = total r.queue :=
  ((h.usedSlots_perm.map Slot.entry).map fun e : Entry => e.2.toNat).sum_eq

theorem Holds.sum_toNat (h : r.Holds n) : r.sum.toNat = total r.queue % 2 ^ 64 := by
  rw [sum, foldl_value_toNat, h.total_usedSlots]
  simp

theorem Holds.mean_toNat (h : r.Holds n) (hc : r.capacity < 2 ^ 64) : r.mean.toNat =
    if r.queue = [] then 0 else total r.queue % 2 ^ 64 / r.queue.length % 2 ^ 32 := by
  have hn : (UInt64.ofNat r.size).toNat = r.queue.length := by
    rw [h.size_eq, h.length_queue, UInt64.toNat_ofNat']
    exact Nat.mod_eq_of_lt (Nat.lt_of_le_of_lt h.le_capacity hc)
  have he : r.isEmpty = true ↔ r.queue = [] := by rw [h.isEmpty_iff, queue, List.map_eq_nil_iff]
  rw [mean]
  simp only [he]
  split
  · rfl
  · rw [UInt64.toNat_toUInt32, UInt64.toNat_div, hn, h.sum_toNat]

theorem total_le (q : List Entry) : total q ≤ q.length * (2 ^ 32 - 1) := by
  induction q with
  | nil => exact Nat.le_refl 0
  | cons e q ih =>
      have he := e.2.toNat_lt
      simp only [total, List.map_cons, List.sum_cons, List.length_cons] at ih ⊢
      omega

theorem total_div_length_lt (q : List Entry) : total q / q.length < 2 ^ 32 := by
  have hle : total q / q.length ≤ 2 ^ 32 - 1 := Nat.div_le_of_le_mul (total_le q)
  omega

theorem Holds.sum_mean_exact (h : r.Holds n) (hc : r.capacity < 2 ^ 64) (hq : r.queue.length ≤ 2 ^ 32) :
    r.sum.toNat = total r.queue ∧ r.mean.toNat = total r.queue / r.queue.length := by
  have hle := total_le r.queue
  have hmod : total r.queue % 2 ^ 64 = total r.queue := Nat.mod_eq_of_lt (by omega)
  refine ⟨by rw [h.sum_toNat, hmod], ?_⟩
  rw [h.mean_toNat hc, hmod, Nat.mod_eq_of_lt (total_div_length_lt _)]
  split
  · rename_i he
    simp [he]
  · rfl

theorem Holds.shows (h : r.Holds n) (hc : r.capacity < 2 ^ 64) : r.Shows r.queue where
  queue_eq := rfl
  holds := by rwa [h.length_queue]
  isSound := h.isSound
  size_eq := by rw [h.size_eq, h.length_queue]
  isEmpty_iff := by rw [h.isEmpty_iff, queue, List.map_eq_nil_iff]
  sum_eq := h.sum_toNat
  mean_eq := h.mean_toNat hc
  exact_of_le := h.sum_mean_exact hc

/-! ## Steps -/

theorem Holds.queue_insert (h : r.Holds n) (sn : SequenceNumber) (value : UInt32) :
    (r.insert sn value).queue =
      if r.queue.length = r.capacity then (r.queue ++ [(sn.toWord, value)]).tail
      else r.queue ++ [(sn.toWord, value)] := by
  have hpos := h.capacity_pos
  have hlen := h.length_queue
  have hq : r.held.map Slot.entry = r.queue := rfl
  rw [queue, h.held_insert, hlen]
  split
  · rw [List.map_append, List.map_tail, hq, List.tail_append_of_ne_nil]
    · rfl
    · intro he
      rw [he, List.length_nil] at hlen
      omega
  · rw [List.map_append, hq]
    rfl

/-- What stands behind the first entry with a packet number. -/
def behind (number : UInt32) (q : List Entry) : List Entry :=
  (q.dropWhile fun e => e.1 != number).tail

theorem behind_append {number : UInt32} {before after : List Entry} {e : Entry}
    (hb : ∀ x ∈ before, x.1 ≠ number) (he : e.1 = number) :
    behind number (before ++ e :: after) = after :=
  behindFirst_append (by simpa using hb) (by simpa using he)

theorem Holds.queue_acknowledge (h : r.Holds n) {sn : SequenceNumber}
    (hm : ∃ e ∈ r.queue, e.1 = sn.toWord) :
    (r.acknowledge sn).queue = behind sn.toWord r.queue := by
  rcases h.held_acknowledge_cases sn with ⟨before, s, hheld, hb, hs⟩ | ⟨hnone, _⟩
  · have hq : r.queue = before.map Slot.entry ++ s.entry :: (r.acknowledge sn).queue := by
      rw [queue, hheld, List.map_append, List.map_cons, queue]
    have hb' : ∀ x ∈ before.map Slot.entry, x.1 ≠ sn.toWord := by
      intro x hx
      obtain ⟨t, ht, rfl⟩ := List.mem_map.mp hx
      exact hb t ht
    rw [hq, behind_append hb' hs]
  · obtain ⟨e, he, hes⟩ := hm
    obtain ⟨s, hs, rfl⟩ := List.mem_map.mp he
    exact absurd hes (hnone s hs)

theorem Holds.acknowledge_unknown (h : r.Holds n) {sn : SequenceNumber}
    (hq : ∀ e ∈ r.queue, e.1 ≠ sn.toWord) : r.acknowledge sn = r := by
  rcases h.held_acknowledge_cases sn with ⟨before, s, hheld, _, hs⟩ | ⟨_, he⟩
  · have hmem : s ∈ r.held := by
      rw [hheld]
      exact List.mem_append_right _ List.mem_cons_self
    exact absurd hs (hq _ (List.mem_map_of_mem hmem))
  · exact he

theorem Holds.queue_clear (h : r.Holds n) : r.clear.queue = [] :=
  List.length_eq_zero_iff.mp (holds_empty h.capacity_pos).length_queue

theorem Holds.queue_act_congr {s : Ring} {m : Nat} (h : r.Holds n) (hs : s.Holds m)
    (hc : s.capacity = r.capacity) (hq : s.queue = r.queue) (a : Action) :
    (s.act a).queue = (r.act a).queue := by
  cases a with
  | insert sn value =>
      simp only [Ring.act]
      rw [h.queue_insert, hs.queue_insert, hc, hq]
  | acknowledge sn =>
      simp only [Ring.act]
      by_cases hm : ∃ e ∈ r.queue, e.1 = sn.toWord
      · rw [h.queue_acknowledge hm, hs.queue_acknowledge (hq ▸ hm), hq]
      · have hn : ∀ e ∈ r.queue, e.1 ≠ sn.toWord := fun e he hes => hm ⟨e, he, hes⟩
        rw [h.acknowledge_unknown hn, hs.acknowledge_unknown (hq ▸ hn), hq]
  | clear => exact hs.queue_clear.trans h.queue_clear.symm

theorem Holds.queue_run_congr {s : Ring} {m : Nat} (h : r.Holds n) (hs : s.Holds m)
    (hc : s.capacity = r.capacity) (hq : s.queue = r.queue) (actions : List Action) :
    (s.run actions).queue = (r.run actions).queue := by
  induction actions generalizing r s n m with
  | nil => exact hq
  | cons a actions ih =>
      obtain ⟨n', hn'⟩ := h.act a
      obtain ⟨m', hm'⟩ := hs.act a
      exact ih hn' hm' (by rw [h.capacity_act, hs.capacity_act, hc]) (h.queue_act_congr hs hc hq a)

end Ring

namespace Window

variable {w : Window}

theorem Reachable.shows (h : w.Reachable) : w.ring.Shows w.ring.queue :=
  h.holds.shows (h.capacity_lt.trans (by decide))

/-- The ring of a window is a bounded first-in first-out queue. An insertion appends, and gives up the
head exactly when the ring is at its capacity; an acknowledgment gives up everything through the
oldest entry with its number, and without one it changes no part of the ring. All views are those of
the queue, now and after any further actions, whatever the free slots hold. -/
theorem Reachable.refines_queue (h : w.Reachable) :
    w.ring.Shows w.ring.queue ∧
      (∀ sn value, (w.ring.insert sn value).queue =
        if w.ring.queue.length = w.ring.capacity then (w.ring.queue ++ [(sn.toWord, value)]).tail
        else w.ring.queue ++ [(sn.toWord, value)]) ∧
      (∀ (sn : SequenceNumber) before value after,
        w.ring.queue = before ++ (sn.toWord, value) :: after →
        (∀ e ∈ before, e.1 ≠ sn.toWord) → (w.ring.acknowledge sn).queue = after) ∧
      (∀ sn : SequenceNumber, (∀ e ∈ w.ring.queue, e.1 ≠ sn.toWord) →
        w.ring.acknowledge sn = w.ring) ∧
      w.ring.clear.queue = [] ∧
      ∀ w' : Window, w'.Reachable → w'.ring.capacity = w.ring.capacity →
        w'.ring.queue = w.ring.queue →
        ∀ actions, (w'.run actions).ring.Shows (w.run actions).ring.queue := by
  refine ⟨h.shows, h.holds.queue_insert, ?_, fun _ => h.holds.acknowledge_unknown,
    h.holds.queue_clear, ?_⟩
  · intro sn before value after hq hb
    have hm : ∃ e ∈ w.ring.queue, e.1 = sn.toWord := ⟨(sn.toWord, value), by simp [hq], rfl⟩
    rw [h.holds.queue_acknowledge hm, hq, Ring.behind_append hb rfl]
  · intro w' h' hc hq actions
    have hr : (w'.run actions).ring.queue = (w.run actions).ring.queue := by
      rw [run_eq, run_eq]
      exact h.holds.queue_run_congr h'.holds hc hq actions
    exact hr ▸ (h'.run actions).shows

/-- A ring of two slots after a third insertion, whose packet number the evicted reference had too. -/
theorem Reachable.refines_queue_two_slots : ∃ w : Window, w.Reachable ∧
    w.ring.queue = [(2, 20), (1, 30)] ∧
      (w.ring.acknowledge (.ofNat _ 2)).queue = [(1, 30)] ∧
      w.ring.acknowledge (.ofNat _ 3) = w.ring := by
  have hw := create_ample 16 2 .rtpSequenceNumber standardInterval (by decide) (by decide)
  obtain ⟨w, h, hq⟩ : ∃ w : Window, w.Reachable ∧ w.ring.queue = [(2, 20), (1, 30)] :=
    ⟨_, (Reachable.start hw).run
      [.insert (.ofNat _ 1) 10, .insert (.ofNat _ 2) 20, .insert (.ofNat _ 1) 30], by decide⟩
  refine ⟨w, h, hq, ?_, ?_⟩
  · exact h.refines_queue.2.2.1 (.ofNat _ 2) [] 20 [(1, 30)] hq (by simp)
  · refine h.refines_queue.2.2.2.1 (.ofNat _ 3) ?_
    rw [hq, List.forall_mem_cons, List.forall_mem_singleton]
    decide

end Window
end WindowedLsb
