import WindowedLsb.FieldWindows
import WindowedLsb.Proofs.Except
import WindowedLsb.Proofs.Ring.Records

/-!
The packets behind a context. Each of its windows is a bounded queue of one field of the packets
recorded. Which packets these are depends on the capacity of the window and on the run, and not on the
field, so that windows of one capacity stay in step.
-/

namespace WindowedLsb

/-- The value of a packet in one field, as a word. -/
def Packet.word (p : Packet) : Counter → UInt32
  | .sequenceNumber => p.sn.toWord
  | .timestamp => p.ts.toWord
  | .ipId => p.ipId.toWord

/-- The packet numbers of the references held, oldest first. -/
def Ring.numbers (r : Ring) : List UInt32 := r.held.map Slot.number

/-- The reference to a packet in the window of one field. -/
def Packet.entry (c : Counter) (p : Packet) : Entry := (p.sn.toWord, p.word c)

namespace FieldWindows

/-! ## One window of a context -/

def window (w : FieldWindows) : Counter → Window
  | .sequenceNumber => w.sn
  | .timestamp => w.ts
  | .ipId => w.ipId

/-- What an action on the context is for the window of one field. -/
def Action.on (c : Counter) : Action → Ring.Action
  | record p => .insert p.sn (p.word c)
  | acknowledge sn => .acknowledge sn
  | clear => .clear

variable {memory : Memory} {w : FieldWindows} {sn ts ipId : Config} {c : Counter}

theorem window_act (w : FieldWindows) (a : Action) (c : Counter) :
    (w.act a).window c = (w.window c).act (a.on c) := by
  cases a <;> cases c <;> rfl

theorem window_run (w : FieldWindows) (actions : List Action) (c : Counter) :
    (w.run actions).window c = (w.window c).run (actions.map (Action.on c)) := by
  induction actions generalizing w with
  | nil => rfl
  | cons a actions ih =>
      have h := ih (w.act a)
      rw [window_act] at h
      exact h

/-- The parameters of one field. -/
def configOf (sn ts ipId : Config) : Counter → Config
  | .sequenceNumber => sn
  | .timestamp => ts
  | .ipId => ipId

theorem window_of_ofConfigs (hw : ofConfigs memory sn ts ipId = .ok w) (c : Counter) :
    (configOf sn ts ipId c).window memory = .ok (w.window c) := by
  obtain ⟨s, hs, h⟩ := bind_ok_iff.mp hw
  obtain ⟨t, ht, h⟩ := bind_ok_iff.mp h
  obtain ⟨i, hi, h⟩ := bind_ok_iff.mp h
  obtain rfl := Except.ok.inj h
  cases c with
  | sequenceNumber => exact hs
  | timestamp => exact ht
  | ipId => exact hi

theorem maxBits_ofField (field : HeaderField) :
    (Config.ofField field).maxBits ≠ 0 ∧ (Config.ofField field).maxBits ≤ wordBits := by
  cases field <;> decide

/-- The windows for an RTP flow can be made with any width for which there is room. -/
theorem exists_create_iff {width : UInt64} (h0 : width.toNat ≠ 0) :
    (∃ w, create memory width = .ok w) ↔ memory.grants (width.toNat * Slot.bytes) := by
  constructor
  · rintro ⟨w, hw⟩
    exact (Window.create_eq_ok_iff.mp (window_of_ofConfigs hw .sequenceNumber)).2.2.1
  · intro hroom
    have hwindow : ∀ field, ∃ v, ((Config.ofField field).withWidth width).window memory = .ok v :=
      fun field => ⟨_, Window.create_eq_ok_iff.mpr ⟨maxBits_ofField field, h0, hroom, rfl⟩⟩
    obtain ⟨s, hs⟩ := hwindow .rtpSequenceNumber
    obtain ⟨t, ht⟩ := hwindow .rtpTimestamp
    obtain ⟨i, hi⟩ := hwindow .ipId
    refine ⟨⟨s, t, i⟩, ?_⟩
    rw [create, ofConfigs, hs, ht, hi]
    rfl

/-! ## Packets kept -/

/-- The packets recorded in a run, in their order. -/
def recorded (actions : List Action) : List Packet :=
  actions.filterMap fun
    | .record p => some p
    | _ => none

/-- The packets that a queue of the given capacity holds after an action. -/
def keep (capacity : Nat) (held : List Packet) : Action → List Packet
  | .record p => (held ++ [p]).rtake capacity
  | .acknowledge sn =>
      if held.any fun p => p.sn == sn then behindFirst (fun p => p.sn == sn) held else held
  | .clear => []

/-- The packets that a queue of the given capacity, empty at first, holds after a run. -/
def kept (capacity : Nat) (actions : List Action) : List Packet := actions.foldl (keep capacity) []

theorem kept_concat (capacity : Nat) (actions : List Action) (a : Action) :
    kept capacity (actions ++ [a]) = keep capacity (kept capacity actions) a :=
  List.foldl_concat ..

/-- Packets are kept in the order in which they were recorded, and the last ones are. -/
theorem kept_suffix (capacity : Nat) (actions : List Action) :
    kept capacity actions <:+ recorded actions := by
  induction actions using List.reverseRecOn with
  | nil => exact List.suffix_rfl
  | append_singleton actions a ih =>
      rw [kept_concat, recorded, List.filterMap_append]
      cases a with
      | record p =>
          obtain ⟨front, hf⟩ := ih
          refine (rtake_suffix _ _).trans ⟨front, ?_⟩
          rw [← List.append_assoc, hf]
          rfl
      | acknowledge sn =>
          change keep capacity (kept capacity actions) (.acknowledge sn) <:+ recorded actions ++ []
          rw [keep, List.append_nil]
          split
          · exact (behindFirst_suffix _ _).trans ih
          · exact ih
      | clear => exact List.nil_suffix

theorem length_keep_le {capacity : Nat} {held : List Packet} (h : held.length ≤ capacity) (a : Action) :
    (keep capacity held a).length ≤ capacity := by
  cases a with
  | record p =>
      rw [keep, length_rtake]
      exact Nat.min_le_left ..
  | acknowledge sn =>
      rw [keep]
      split
      · exact (behindFirst_suffix _ _).length_le.trans h
      · exact h
  | clear => exact Nat.zero_le _

theorem length_kept_le (capacity : Nat) (actions : List Action) :
    (kept capacity actions).length ≤ capacity := by
  induction actions using List.reverseRecOn with
  | nil => exact Nat.zero_le _
  | append_singleton actions a ih =>
      rw [kept_concat]
      exact length_keep_le ih a

theorem behind_map_entry (c : Counter) (sn : SequenceNumber) (held : List Packet) :
    Ring.behind sn.toWord (held.map (Packet.entry c)) =
      (behindFirst (fun p => p.sn == sn) held).map (Packet.entry c) := by
  have hkey : (fun e : Entry => e.1 == sn.toWord) ∘ Packet.entry c = fun p => p.sn == sn := by
    funext p
    exact Bool.eq_iff_iff.mpr (by simp [Packet.entry, Counter.Reading.toWord_inj])
  have hb := behindFirst_map (p := fun e : Entry => e.1 == sn.toWord) (Packet.entry c) held
  rw [hkey] at hb
  exact hb

/-- An action on the window of a field does to its references what it does to the packets kept. -/
theorem queue_act {r : Ring} {n : Nat} {held : List Packet} (h : r.Holds n)
    (hq : r.queue = held.map (Packet.entry c)) (a : Action) :
    (r.act (a.on c)).queue = (keep r.capacity held a).map (Packet.entry c) := by
  have hlen : held.length = n := by rw [← h.length_queue, hq, List.length_map]
  cases a with
  | record p =>
      have hfit : held.rtake r.capacity = held := rtake_of_length_le (hlen ▸ h.le_capacity)
      simp only [Action.on, Ring.act, keep]
      rw [h.queue_insert, hq, rtake_concat, hfit, List.length_map]
      split
      · rw [List.map_tail, List.map_append]
        rfl
      · rw [List.map_append]
        rfl
  | acknowledge sn =>
      have hmem : (∃ e ∈ r.queue, e.1 = sn.toWord) ↔ held.any (fun p => p.sn == sn) = true := by
        simp [hq, Packet.entry, Counter.Reading.toWord_inj]
      simp only [Action.on, Ring.act, keep]
      split
      · rename_i hm
        rw [h.queue_acknowledge (hmem.mpr hm), hq, behind_map_entry]
      · rename_i hm
        rw [h.acknowledge_unknown fun e he hes => hm (hmem.mp ⟨e, he, hes⟩), hq]
  | clear => exact h.queue_clear

theorem queue_run {r : Ring} {n : Nat} {held : List Packet} (h : r.Holds n)
    (hq : r.queue = held.map (Packet.entry c)) (actions : List Action) :
    (r.run (actions.map (Action.on c))).queue =
      (actions.foldl (keep r.capacity) held).map (Packet.entry c) := by
  induction actions generalizing r n held with
  | nil => exact hq
  | cons a actions ih =>
      obtain ⟨m, hm⟩ := h.act (a.on c)
      have hrun := ih hm (queue_act h hq a)
      rw [h.capacity_act] at hrun
      exact hrun

/-! ## Runs from the start -/

theorem reachable_window (hw : ofConfigs memory sn ts ipId = .ok w) (c : Counter) :
    (w.window c).Reachable := .start (window_of_ofConfigs hw c)

theorem reachable_window_run (hw : ofConfigs memory sn ts ipId = .ok w) (actions : List Action)
    (c : Counter) : ((w.run actions).window c).Reachable := by
  rw [window_run]
  exact (reachable_window hw c).run _

theorem ring_window (hw : ofConfigs memory sn ts ipId = .ok w) (c : Counter) :
    (w.window c).ring = .empty (configOf sn ts ipId c).width.toNat := by
  obtain ⟨-, -, -, he⟩ := Window.create_eq_ok_iff.mp (window_of_ofConfigs hw c)
  rw [he]

theorem capacity_window (hw : ofConfigs memory sn ts ipId = .ok w) (c : Counter) :
    (w.window c).ring.capacity = (configOf sn ts ipId c).width.toNat := by
  rw [ring_window hw]
  simp [Ring.empty, Ring.capacity]

theorem capacity_window_run (hw : ofConfigs memory sn ts ipId = .ok w) (actions : List Action)
    (c : Counter) : ((w.run actions).window c).ring.capacity = (w.window c).ring.capacity := by
  rw [window_run, Window.run_eq]
  exact (reachable_window hw c).holds.capacity_run _

theorem queue_window_run (hw : ofConfigs memory sn ts ipId = .ok w) (actions : List Action) (c : Counter) :
    ((w.run actions).window c).ring.queue =
      (kept (w.window c).ring.capacity actions).map (Packet.entry c) := by
  have h := (reachable_window hw c).holds
  have hnil : (w.window c).ring.queue = ([] : List Packet).map (Packet.entry c) := by
    rw [List.map_nil, ring_window hw c, ← List.length_eq_zero_iff]
    exact (Ring.holds_empty (capacity_window hw c ▸ h.capacity_pos)).length_queue
  rw [window_run, Window.run_eq]
  exact queue_run h hnil actions

theorem held_window_run (hw : ofConfigs memory sn ts ipId = .ok w) (actions : List Action) (c : Counter) :
    ((w.run actions).window c).ring.held =
      (kept (w.window c).ring.capacity actions).map fun p => ⟨p.sn.toWord, p.word c, true⟩ := by
  rw [Ring.held_eq_queue, queue_window_run hw, List.map_map]
  rfl

theorem size_window_run (hw : ofConfigs memory sn ts ipId = .ok w) (actions : List Action) (c : Counter) :
    ((w.run actions).window c).ring.size = (kept (w.window c).ring.capacity actions).length := by
  rw [(reachable_window_run hw actions c).holds.size_eq, held_window_run hw, List.length_map]

theorem numbers_window_run (hw : ofConfigs memory sn ts ipId = .ok w) (actions : List Action) (c : Counter) :
    ((w.run actions).window c).ring.numbers =
      (kept (w.window c).ring.capacity actions).map fun p => p.sn.toWord := by
  rw [Ring.numbers, held_window_run hw, List.map_map]
  rfl

end FieldWindows
end WindowedLsb
