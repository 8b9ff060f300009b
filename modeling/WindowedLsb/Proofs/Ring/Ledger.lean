import WindowedLsb.Proofs.Reachable

/-!
The events of a run are its ledger: every reference inserted is held still, or an event tells that it
was given up, or it was cleared away.
-/

namespace WindowedLsb

/-! ## What events give up -/

namespace Event

def isEviction : Event → Bool
  | evicted _ => true
  | created .. | unknown _ | compacted .. => false

/-- The references that went with an acknowledgment. -/
def removed : Event → Nat
  | compacted _ removed _ _ => removed
  | created .. | evicted _ | unknown _ => 0

/-- All references that the events tell to be given up. -/
def givenUp (es : List Event) : Nat := es.countP isEviction + (es.map removed).sum

@[simp] theorem givenUp_nil : givenUp [] = 0 := rfl

theorem givenUp_append (es es' : List Event) : givenUp (es ++ es') = givenUp es + givenUp es' := by
  simp only [givenUp, List.countP_append, List.map_append, List.sum_append]
  omega

end Event

namespace Ring

/-! ## What actions put in and clear away -/

def Action.isInsertion : Action → Bool
  | insert .. => true
  | acknowledge _ | clear => false

/-- How many references the action clears away. -/
def cleared (r : Ring) : Action → Nat
  | .clear => r.size
  | .insert .. | .acknowledge _ => 0

/-- How many references are cleared away in a whole run. -/
def runCleared (r : Ring) : List Action → Nat
  | [] => 0
  | a :: rest => r.cleared a + (r.act a).runCleared rest

/-! ## Steps -/

/-- What has to be reported of an action, told by the references held. -/
inductive Reports (r : Ring) : Action → List Event → Prop where
  /-- There is room for the reference. -/
  | added {sn value} : r.held.length < r.capacity →
      (r.insert sn value).held = r.held ++ [⟨sn.toWord, value, true⟩] →
      Reports r (.insert sn value) []
  /-- The ring is full. The oldest reference goes, and the new one is written in its slot. -/
  | evicted {sn value s rest} : r.held.length = r.capacity → r.held = s :: rest →
      r.slot r.oldest = s →
      (∀ p < r.capacity, (r.insert sn value).slot p =
        if p = r.oldest then ⟨sn.toWord, value, true⟩ else r.slot p) →
      (r.insert sn value).held = rest ++ [⟨sn.toWord, value, true⟩] →
      Reports r (.insert sn value) [.evicted s.number]
  /-- No reference has the packet number. -/
  | unknown {sn} : (∀ t ∈ r.held, t.number ≠ sn.toWord) → r.acknowledge sn = r →
      Reports r (.acknowledge sn) [.unknown sn]
  /-- The oldest reference with the packet number is at position `p`, and goes with all older
  ones. -/
  | compacted {sn before s p removed} :
      r.held = before ++ s :: (r.acknowledge sn).held → (∀ t ∈ before, t.number ≠ sn.toWord) →
      s.number = sn.toWord → p < r.capacity → p = r.position before.length → r.slot p = s →
      r.size = removed + (r.acknowledge sn).size →
      Reports r (.acknowledge sn)
        [.compacted p removed (r.acknowledge sn).oldest (r.acknowledge sn).next]
  | cleared : r.clear.held = [] → Reports r .clear []

variable {r : Ring} {n : Nat}

theorem Holds.reports_insert (h : r.Holds n) (sn : SequenceNumber) (value : UInt32) :
    r.Reports (.insert sn value) (r.events (.insert sn value)) := by
  have hheld := h.held_insert sn value
  have hlen := h.length_held
  rw [events, insertEvents]
  by_cases hn : n = r.capacity
  · rw [if_pos (h.isFull_iff.mpr hn)]
    rw [if_pos hn] at hheld
    have hne : r.held ≠ [] := List.ne_nil_of_length_pos (by rw [hlen, hn]; exact h.capacity_pos)
    have hoz : r.position 0 = r.oldest := position_zero h.oldest_lt
    have hhead : r.held.head hne = r.slot r.oldest := by
      rw [List.head_eq_getElem, h.getElem_held, nth, hoz]
    have hnext : r.next = r.oldest := by rw [h.next_eq, hn, position_capacity h.oldest_lt]
    refine .evicted (hlen.trans hn) ?_ rfl ?_ hheld
    · rw [← hhead, List.cons_head_tail]
    · intro p hp
      rw [slot_insert r sn value hp, hnext]
  · rw [if_neg (h.isFull_iff.not.mpr hn)]
    rw [if_neg hn] at hheld
    have hlt : n < r.capacity := Nat.lt_of_le_of_ne h.le_capacity hn
    exact .added (hlen ▸ hlt) hheld

theorem Holds.reports_acknowledge (h : r.Holds n) (sn : SequenceNumber) :
    r.Reports (.acknowledge sn) (r.events (.acknowledge sn)) := by
  rw [events, acknowledgeEvents]
  rcases h.find?_cases sn with ⟨before, s, after, hheld, hb, hs, hk, hf⟩ | ⟨hnone, hf⟩
  · have hc : before.length < r.capacity := Nat.lt_of_lt_of_le hk h.le_capacity
    have hr : r.acknowledge sn = r.removeThrough (r.position before.length) := by
      rw [acknowledge, hf]
    have hd : r.acknowledge sn = r.dropThrough (r.position before.length) :=
      hr.trans (h.removeThrough_eq hk)
    have hafter : (r.acknowledge sn).held = after := by
      rw [hd, h.held_dropThrough hk, hheld]
      simp
    have hslot : r.slot (r.position before.length) = s := by
      have hg := h.getElem_held (i := before.length) (by rw [h.length_held]; exact hk)
      rw [← nth, ← hg]
      simp [hheld]
    have hsize : r.size = r.span (r.position before.length) + (r.acknowledge sn).size := by
      rw [span_position h.oldest_lt hc, hd, h.size_eq, (h.dropThrough hk).size_eq]
      omega
    rw [hf]
    change r.Reports _ [.compacted _ _ (r.removeThrough _).oldest (r.removeThrough _).next]
    rw [← hr]
    exact .compacted (by rw [hafter, hheld]) hb hs (position_lt h.capacity_pos _) rfl hslot hsize
  · rw [hf]
    exact .unknown hnone (by rw [acknowledge, hf])

theorem Holds.reports (h : r.Holds n) (a : Action) : r.Reports a (r.events a) := by
  cases a with
  | insert sn value => exact h.reports_insert sn value
  | acknowledge sn => exact h.reports_acknowledge sn
  | clear => exact .cleared (List.length_eq_zero_iff.mp (holds_empty h.capacity_pos).length_held)

/-- A step balances: what was held and what is put in is held afterwards, given up or cleared
away. -/
theorem Reports.balance {a : Action} {es : List Event} (h : r.Reports a es) (hn : r.Holds n) :
    r.size + [a].countP Action.isInsertion =
      (r.act a).size + Event.givenUp es + r.cleared a := by
  obtain ⟨m, hm⟩ := hn.act a
  have hsize : r.size = r.held.length := by rw [hn.size_eq, hn.length_held]
  have hsize' : (r.act a).size = (r.act a).held.length := by rw [hm.size_eq, hm.length_held]
  cases h with
  | added _ hheld =>
      rw [hsize', act, hheld, hsize]
      simp [Action.isInsertion, Ring.cleared]
  | evicted _ hs _ _ hheld =>
      rw [hsize', act, hheld, hsize, hs]
      simp [Action.isInsertion, Ring.cleared, Event.givenUp, Event.isEviction, Event.removed]
  | unknown _ he =>
      rw [act, he]
      simp [Action.isInsertion, Ring.cleared, Event.givenUp, Event.isEviction, Event.removed]
  | compacted _ _ _ _ _ _ hr =>
      rw [hr, act]
      simp [Action.isInsertion, Ring.cleared, Event.givenUp, Event.isEviction, Event.removed]
      omega
  | cleared he =>
      rw [hsize', act, he]
      simp [Action.isInsertion, Ring.cleared]

/-! ## Runs -/

theorem runEvents_concat (r : Ring) (actions : List Action) (a : Action) :
    r.runEvents (actions ++ [a]) = r.runEvents actions ++ (r.run actions).events a := by
  induction actions generalizing r with
  | nil => simp [runEvents, run]
  | cons b actions ih => simp [runEvents, run, ih]

theorem Holds.run_balance (h : r.Holds n) (actions : List Action) :
    r.size + actions.countP Action.isInsertion =
      (r.run actions).size + Event.givenUp (r.runEvents actions) + r.runCleared actions := by
  induction actions generalizing r n with
  | nil => rfl
  | cons a actions ih =>
      obtain ⟨m, hm⟩ := h.act a
      have hstep := (h.reports a).balance h
      have hrest := ih hm
      have hrun : r.run (a :: actions) = (r.act a).run actions := rfl
      rw [runEvents, runCleared, Event.givenUp_append, hrun]
      rw [← List.singleton_append, List.countP_append]
      omega

end Ring

namespace Window

/-- Each action of a run reports what happens to the references held: an insertion an eviction if and
only if there is no room, an acknowledgment one event that says what it found and removed, and
clearing nothing. All references ever inserted are thus held, evicted, removed or cleared away. -/
theorem events_account_for_references {memory : Memory} {maxBits : UInt8}
    {capacity : Nat} {shift : Shift} {f : IntervalFunction} {w : Window}
    (hw : create memory maxBits capacity shift f = .ok w)
    (actions : List Ring.Action) :
    (∀ a, ∃ es, w.ring.runEvents (actions ++ [a]) = w.ring.runEvents actions ++ es ∧
      (w.run actions).ring.Reports a es) ∧
    actions.countP Ring.Action.isInsertion =
      (w.run actions).ring.size +
        (w.ring.runEvents actions).countP Event.isEviction +
        ((w.ring.runEvents actions).map Event.removed).sum +
        w.ring.runCleared actions := by
  obtain ⟨-, hc, -, rfl⟩ := create_eq_ok_iff.mp hw
  have h : (Ring.empty capacity).Holds 0 := Ring.holds_empty (Nat.pos_of_ne_zero hc)
  rw [run_eq]
  refine ⟨fun a => ?_, ?_⟩
  · obtain ⟨n, hn⟩ := h.run actions
    exact ⟨_, Ring.runEvents_concat _ actions a, hn.reports a⟩
  · have hb := h.run_balance actions
    rw [h.size_eq, Event.givenUp] at hb
    simp only
    omega

/-- In a ring of two slots the third reference evicts the first, and an acknowledgment of the third
removes the two that are held. The fourth is cleared away and the fifth is held. -/
theorem events_account_for_references_two_slots : ∃ w : Window,
    create .ample 16 2 .rtpSequenceNumber standardInterval = .ok w ∧
    let actions : List Ring.Action := [.insert (.ofNat _ 1) 10, .insert (.ofNat _ 2) 20,
      .insert (.ofNat _ 3) 30, .acknowledge (.ofNat _ 1), .acknowledge (.ofNat _ 3),
      .insert (.ofNat _ 4) 40, .clear, .insert (.ofNat _ 5) 50]
    w.ring.runEvents actions = [.evicted 1, .unknown (.ofNat _ 1), .compacted 0 2 1 1] ∧
      actions.countP Ring.Action.isInsertion = 1 + 1 + 2 + 1 := by
  have hw := create_ample 16 2 .rtpSequenceNumber standardInterval (by decide) (by decide)
  refine ⟨_, hw, by decide, ?_⟩
  exact (events_account_for_references hw _).2.trans (by decide)

end Window
end WindowedLsb
