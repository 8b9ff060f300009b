import WindowedLsb.Proofs.Checked.Basic
import WindowedLsb.Proofs.Ring.Queue

/-!
The ring with every place, cursor and count checked. The cursors of a ring that satisfies the invariant
are places in it, and counting once round from one of them reaches no number too large.
-/

namespace WindowedLsb.Checked.Ring

/-! ## Cursors -/

def after (r : Ring) (p : Nat) : Except Trap Nat := do rem (← unsigned (p + 1)) r.capacity

def position (r : Ring) (i : Nat) : Except Trap Nat := do
  rem (← unsigned (r.oldest + i)) r.capacity

/-- All positions are found before any of them is looked at, which can only trap more often. -/
def positions (r : Ring) : Except Trap (List Nat) := (List.range r.capacity).mapM (position r)

def held (r : Ring) : Except Trap (List Slot) := do
  let slots ← (← positions r).mapM (read r.slots)
  return slots.takeWhile Slot.used

variable {r : Ring} {i n p : Nat}

theorem after_eq_ok (hc : r.capacity < 2 ^ 63) (hp : p < r.capacity) :
    after r p = .ok (r.after p) := by
  rw [after, unsigned_eq_ok (by omega), ok_bind, rem_eq_ok (Nat.zero_lt_of_lt hp)]
  rfl

theorem position_eq_ok (hc : r.capacity < 2 ^ 63) (ho : r.oldest < r.capacity)
    (hi : i ≤ r.capacity) : position r i = .ok (r.position i) := by
  rw [position, unsigned_eq_ok (by omega), ok_bind, rem_eq_ok (Nat.zero_lt_of_lt ho)]
  rfl

theorem positions_eq_ok (hc : r.capacity < 2 ^ 63) (ho : r.oldest < r.capacity) :
    positions r = .ok r.positions :=
  mapM_eq_ok fun _ hi => position_eq_ok hc ho (Nat.le_of_lt (List.mem_range.mp hi))

theorem read_eq_slot (hp : p < r.capacity) : read r.slots p = .ok (r.slot p) := read_eq_ok default hp

theorem mem_positions_lt (ho : r.oldest < r.capacity) (hp : p ∈ r.positions) : p < r.capacity := by
  obtain ⟨i, -, rfl⟩ := List.mem_map.mp hp
  exact WindowedLsb.Ring.position_lt (Nat.zero_lt_of_lt ho) i

theorem held_eq_ok (hc : r.capacity < 2 ^ 63) (ho : r.oldest < r.capacity) :
    held r = .ok r.held := by
  have hread : r.positions.mapM (read r.slots) = .ok (r.positions.map r.slot) :=
    mapM_eq_ok fun _ hp => read_eq_slot (mem_positions_lt ho hp)
  rw [held, positions_eq_ok hc ho, ok_bind, hread, ok_bind]
  rfl

/-! ## Insertion -/

/-- The oldest cursor of the ring in which the insertion writes, and what is given up for it. -/
def makeRoom (r : Ring) : Except Trap (Nat × List Event) := do
  if (← read r.slots r.next).used then
    let evicted ← read r.slots r.oldest
    return (← after r r.oldest, [.evicted evicted.number])
  return (r.oldest, [])

def insert (r : Ring) (sn : SequenceNumber) (value : UInt32) : Except Trap (Ring × List Event) := do
  let room ← makeRoom r
  let slots ← write r.slots r.next ⟨sn.toWord, value, true⟩
  return (⟨slots, room.1, ← after r r.next⟩, room.2)

theorem makeRoom_eq_ok (hc : r.capacity < 2 ^ 63) (ho : r.oldest < r.capacity)
    (hx : r.next < r.capacity) :
    makeRoom r = .ok (if r.isFull then r.after r.oldest else r.oldest, r.insertEvents) := by
  rw [makeRoom, read_eq_slot hx, ok_bind, read_eq_slot ho, ok_bind, after_eq_ok hc ho, ok_bind,
    WindowedLsb.Ring.insertEvents, WindowedLsb.Ring.isFull]
  split <;> rfl

theorem insert_eq_ok (hc : r.capacity < 2 ^ 63) (ho : r.oldest < r.capacity)
    (hx : r.next < r.capacity) (sn : SequenceNumber) (value : UInt32) :
    insert r sn value = .ok (r.insert sn value, r.insertEvents) := by
  rw [insert, makeRoom_eq_ok hc ho hx, ok_bind, write_eq_ok _ hx, ok_bind, after_eq_ok hc hx, ok_bind]
  rfl

/-! ## Acknowledgment -/

def find? (r : Ring) (sn : SequenceNumber) : Except Trap (Option Nat) := do
  (← positions r).findM? fun p => do
    let s ← read r.slots p
    return s.used && s.number == sn.toWord

def span (r : Ring) (p : Nat) : Except Trap Nat := do
  let ahead ← sub (← unsigned (p + r.capacity)) r.oldest
  unsigned ((← rem ahead r.capacity) + 1)

def freeFirst (r : Ring) (count : Nat) : Except Trap (Array Slot) :=
  (List.range count).foldlM (fun slots i => do modify slots (← position r i) Slot.free) r.slots

def gapFrom (r : Ring) (p : Nat) : (steps : Nat) → Except Trap Nat
  | 0 => .ok p
  | steps + 1 => do
      if (← read r.slots p).used then gapFrom r (← after r p) steps else return p

def removeThrough (r : Ring) (p : Nat) : Except Trap (Ring × List Event) := do
  let removed ← span r p
  let slots ← freeFirst r removed
  let oldest ← after r p
  let next ← gapFrom ⟨slots, oldest, r.next⟩ oldest r.capacity
  return (⟨slots, oldest, next⟩, [.compacted p removed oldest next])

def acknowledge (r : Ring) (sn : SequenceNumber) : Except Trap (Ring × List Event) := do
  match ← find? r sn with
  | some p => removeThrough r p
  | none => return (r, [.unknown sn])

theorem find?_eq_ok (hc : r.capacity < 2 ^ 63) (ho : r.oldest < r.capacity) (sn : SequenceNumber) :
    find? r sn = .ok (r.find? sn) := by
  rw [find?, positions_eq_ok hc ho, ok_bind]
  refine findM?_eq_ok fun p hp => ?_
  rw [read_eq_slot (mem_positions_lt ho hp), ok_bind]
  rfl

theorem span_le (hp : p < r.capacity) : r.span p ≤ r.capacity :=
  Nat.succ_le_of_lt (Nat.mod_lt _ (Nat.zero_lt_of_lt hp))

theorem span_eq_ok (hc : r.capacity < 2 ^ 63) (ho : r.oldest < r.capacity) (hp : p < r.capacity) :
    span r p = .ok (r.span p) := by
  have hle := span_le hp
  rw [span, unsigned_eq_ok (by omega), ok_bind, sub_eq_ok (by omega), ok_bind,
    rem_eq_ok (Nat.zero_lt_of_lt hp), ok_bind]
  exact unsigned_eq_ok (Nat.lt_of_le_of_lt hle (by omega))

theorem freeFirst_eq_ok (hc : r.capacity < 2 ^ 63) (ho : r.oldest < r.capacity) {count : Nat}
    (hcount : count ≤ r.capacity) : freeFirst r count = .ok (r.freeFirst count) := by
  -- The rounds still to come stay within the ring, and no write changes its size.
  refine foldlM_eq_ok (fun rest slots => slots.size = r.capacity ∧ ∀ i ∈ rest, i < r.capacity) ?_
    ⟨rfl, fun i hi => Nat.lt_of_lt_of_le (List.mem_range.mp hi) hcount⟩
  rintro i rest slots ⟨hsize, hrest⟩
  have hi := hrest i List.mem_cons_self
  have hp : r.position i < slots.size := by
    rw [hsize]
    exact WindowedLsb.Ring.position_lt (Nat.zero_lt_of_lt hi) i
  rw [position_eq_ok hc ho (Nat.le_of_lt hi), ok_bind, modify_eq_ok _ hp]
  exact ⟨rfl, by rw [Array.size_modify, hsize], fun j hj => hrest j (List.mem_cons_of_mem i hj)⟩

theorem gapFrom_eq_ok (hc : r.capacity < 2 ^ 63) (hp : p < r.capacity) (steps : Nat) :
    gapFrom r p steps = .ok (r.gapFrom p steps) := by
  induction steps generalizing p with
  | zero => rfl
  | succ steps ih =>
      have hafter : r.after p < r.capacity := Nat.mod_lt _ (Nat.zero_lt_of_lt hp)
      rw [gapFrom, read_eq_slot hp, ok_bind, after_eq_ok hc hp, ok_bind, ih hafter,
        WindowedLsb.Ring.gapFrom]
      split <;> rfl

theorem removeThrough_eq_ok (hc : r.capacity < 2 ^ 63) (ho : r.oldest < r.capacity)
    (hp : p < r.capacity) :
    removeThrough r p = .ok (r.removeThrough p,
      [.compacted p (r.span p) (r.removeThrough p).oldest (r.removeThrough p).next]) := by
  have hcap : (r.freeFirst (r.span p)).size = r.capacity :=
    WindowedLsb.Ring.size_freeFirst r (r.span p)
  have hafter : r.after p < r.capacity := Nat.mod_lt _ (Nat.zero_lt_of_lt hp)
  have hgap : gapFrom ⟨r.freeFirst (r.span p), r.after p, r.next⟩ (r.after p) r.capacity =
      .ok (r.removeThrough p).next := by
    -- The loop goes over a ring with the run freed already, and with as many slots.
    have hloop := gapFrom_eq_ok (r := ⟨r.freeFirst (r.span p), r.after p, r.next⟩) (p := r.after p)
      (by rwa [Ring.capacity, hcap]) (by rwa [Ring.capacity, hcap]) r.capacity
    rw [hloop, ← hcap]
    rfl
  rw [removeThrough, span_eq_ok hc ho hp, ok_bind, freeFirst_eq_ok hc ho (span_le hp), ok_bind,
    after_eq_ok hc hp, ok_bind, hgap, ok_bind]
  rfl

theorem acknowledge_eq_ok (hc : r.capacity < 2 ^ 63) (ho : r.oldest < r.capacity)
    (sn : SequenceNumber) :
    acknowledge r sn = .ok (r.acknowledge sn, r.acknowledgeEvents sn) := by
  rw [acknowledge, find?_eq_ok hc ho, ok_bind, WindowedLsb.Ring.acknowledge,
    WindowedLsb.Ring.acknowledgeEvents]
  cases hf : r.find? sn with
  | none => rfl
  | some p => exact removeThrough_eq_ok hc ho (mem_positions_lt ho (List.mem_of_find?_eq_some hf))

/-! ## Runs -/

def act (r : Ring) : Ring.Action → Except Trap (Ring × List Event)
  | .insert sn value => insert r sn value
  | .acknowledge sn => acknowledge r sn
  | .clear => .ok (r.clear, [])

def run (r : Ring) : List Ring.Action → Except Trap (Ring × List Event)
  | [] => .ok (r, [])
  | a :: rest => do
      let (s, events) ← act r a
      let (t, more) ← run s rest
      return (t, events ++ more)

theorem act_eq_ok (h : r.Holds n) (hc : r.capacity < 2 ^ 63) (a : Ring.Action) :
    act r a = .ok (r.act a, r.events a) := by
  cases a with
  | insert sn value => exact insert_eq_ok hc h.oldest_lt h.next_lt sn value
  | acknowledge sn => exact acknowledge_eq_ok hc h.oldest_lt sn
  | clear => rfl

theorem run_eq_ok (h : r.Holds n) (hc : r.capacity < 2 ^ 63) (actions : List Ring.Action) :
    run r actions = .ok (r.run actions, r.runEvents actions) := by
  induction actions generalizing r n with
  | nil => rfl
  | cons a actions ih =>
      obtain ⟨m, hm⟩ := h.act a
      have hrest := ih hm (by rw [h.capacity_act]; exact hc)
      rw [run, act_eq_ok h hc, ok_bind]
      change (run (r.act a) actions >>= _) = _
      rw [hrest]
      rfl

/-! ## Views -/

/-- Stops a program whose ring breaks the invariant. -/
def validate (r : Ring) : Except Trap Unit := do
  assert (1 ≤ r.capacity)
  assert (r.oldest < r.capacity)
  assert (r.next < r.capacity)
  assert ((← held r).length = r.size)
  if r.size = r.capacity then assert (r.next = r.oldest)
  else assert (r.next = (← position r r.size))

def add (total : Nat) (s : Slot) : Except Trap Nat := unsigned (total + s.value.toNat)

/-- A sum and the number of its terms. -/
def addCounted (total : Nat × Nat) (s : Slot) : Except Trap (Nat × Nat) := do
  return (← add total.1 s, ← unsigned (total.2 + 1))

def sum (r : Ring) : Except Trap Nat := r.usedSlots.foldlM add 0

def mean (r : Ring) : Except Trap UInt32 := do
  let total ← r.usedSlots.foldlM addCounted (0, 0)
  if total.2 = 0 then return 0
  return UInt32.ofNat (← div total.1 total.2)

/-- On no ring does the check end in another way than by its assertions. -/
theorem validate_eq (hc : r.capacity < 2 ^ 63) :
    validate r = if r.isSound then .ok () else .error .assertion := by
  simp only [validate, assert_bind_eq, Ring.isSound_iff, ite_and]
  refine ite_congr rfl (fun _ => ite_congr rfl (fun ho => ?_) fun _ => rfl) fun _ => rfl
  have hlast : (if r.size = r.capacity then assert (r.next = r.oldest)
      else do assert (r.next = (← position r r.size))) = assert (r.next = r.position r.size) := by
    by_cases hs : r.size = r.capacity
    · rw [if_pos hs, hs, Ring.position_capacity ho]
    · rw [if_neg hs, position_eq_ok hc ho r.size_le_capacity, ok_bind]
  rw [held_eq_ok hc ho, ok_bind, hlast]
  rfl

theorem validate_eq_ok (h : r.Holds n) (hc : r.capacity < 2 ^ 63) : validate r = .ok () := by
  rw [validate_eq hc, if_pos h.isSound]

theorem foldlM_add_eq_ok {l : List Slot} {acc : Nat}
    (hsum : acc + Ring.total (l.map Slot.entry) < 2 ^ 64) :
    l.foldlM add acc = .ok (acc + Ring.total (l.map Slot.entry)) := by
  induction l generalizing acc with
  | nil => rfl
  | cons s l ih =>
      rw [Ring.total_cons, ← Nat.add_assoc] at hsum ⊢
      rw [List.foldlM_cons, add, unsigned_eq_ok (by omega), ok_bind, ih hsum]

theorem foldlM_addCounted_eq_ok {l : List Slot} {acc count : Nat}
    (hsum : acc + Ring.total (l.map Slot.entry) < 2 ^ 64) (hcount : count + l.length < 2 ^ 64) :
    l.foldlM addCounted (acc, count) =
      .ok (acc + Ring.total (l.map Slot.entry), count + l.length) := by
  induction l generalizing acc count with
  | nil => rfl
  | cons s l ih =>
      rw [Ring.total_cons, ← Nat.add_assoc] at hsum ⊢
      rw [List.length_cons, Nat.add_comm l.length, ← Nat.add_assoc] at hcount ⊢
      rw [List.foldlM_cons, addCounted, add, unsigned_eq_ok (by omega), ok_bind,
        unsigned_eq_ok (by omega), ok_bind]
      exact ih hsum hcount

/-- As many words as there are can be added up. -/
theorem total_usedSlots_lt (h : r.Holds n) (hn : n ≤ 2 ^ 32) :
    0 + Ring.total (r.usedSlots.map Slot.entry) < 2 ^ 64 := by
  have hle := Ring.total_le r.queue
  rw [h.length_queue] at hle
  rw [Nat.zero_add, h.total_usedSlots]
  omega

theorem sum_eq_ok (h : r.Holds n) (hc : r.capacity < 2 ^ 63) (hn : n ≤ 2 ^ 32) :
    sum r = .ok r.sum.toNat := by
  rw [sum, foldlM_add_eq_ok (total_usedSlots_lt h hn), Nat.zero_add, h.total_usedSlots,
    (h.sum_mean_exact (by omega) (by rwa [h.length_queue])).1]

theorem mean_eq_ok (h : r.Holds n) (hc : r.capacity < 2 ^ 63) (hn : n ≤ 2 ^ 32) :
    mean r = .ok r.mean := by
  have hlen : r.usedSlots.length = n := h.size_eq
  have hmean := (h.sum_mean_exact (by omega) (by rwa [h.length_queue])).2
  rw [h.length_queue] at hmean
  rw [mean, foldlM_addCounted_eq_ok (total_usedSlots_lt h hn) (by omega), ok_bind, Nat.zero_add,
    h.total_usedSlots, Nat.zero_add, hlen]
  by_cases hzero : n = 0
  · rw [hzero, Nat.div_zero] at hmean
    have hempty : r.mean = 0 := UInt32.toNat_inj.mp hmean
    rw [if_pos hzero, hempty]
    rfl
  · rw [if_neg hzero, div_eq_ok (Nat.pos_of_ne_zero hzero), ok_bind, ← hmean, UInt32.ofNat_toNat]
    rfl

end WindowedLsb.Checked.Ring
