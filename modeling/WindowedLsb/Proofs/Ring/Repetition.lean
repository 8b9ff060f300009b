import WindowedLsb.Proofs.Feedback
import WindowedLsb.Proofs.Sequence

/-!
Repeated packet numbers and repeated acknowledgments. An acknowledgment takes the oldest reference with
its number; sent again, it takes the next one if there is another. There is none while packets are
numbered in sequence, unless the ring has more slots than there are packet numbers.
-/

namespace WindowedLsb

namespace Ring

variable {r : Ring} {sn : SequenceNumber} {n p : Nat}

/-! ## Acknowledging again -/

theorem Holds.acknowledge_eq_self_iff (h : r.Holds n) (sn : SequenceNumber) :
    r.acknowledge sn = r ↔ sn.toWord ∉ r.held.map Slot.number := by
  obtain ⟨before, s, hheld, -, hs⟩ | ⟨hnone, he⟩ := h.held_acknowledge_cases sn
  · refine iff_of_false (fun he => ?_) (not_not_intro (List.mem_map.mpr ⟨s, ?_, hs⟩))
    · -- What is left is shorter by one reference at least.
      have hlen := congrArg List.length hheld
      rw [he, List.length_append, List.length_cons] at hlen
      omega
    · rw [hheld]
      exact List.mem_append_right _ List.mem_cons_self
  · exact iff_of_true he (by simpa using hnone)

theorem Holds.count_acknowledge (h : r.Holds n) (sn : SequenceNumber) :
    ((r.acknowledge sn).held.map Slot.number).count sn.toWord =
      (r.held.map Slot.number).count sn.toWord - 1 := by
  obtain ⟨before, s, hheld, hb, hs⟩ | ⟨hnone, he⟩ := h.held_acknowledge_cases sn
  · -- All older references have other numbers, so that one of this number goes with them.
    have hbefore : (before.map Slot.number).count sn.toWord = 0 :=
      List.count_eq_zero.mpr (by simpa using hb)
    rw [hheld, List.map_append, List.map_cons, List.count_append, hbefore, hs, List.count_cons_self]
    omega
  · have hzero : (r.held.map Slot.number).count sn.toWord = 0 :=
      List.count_eq_zero.mpr (by simpa using hnone)
    rw [he, hzero]

theorem Holds.acknowledge_acknowledge_iff (h : r.Holds n) (sn : SequenceNumber) :
    (r.acknowledge sn).acknowledge sn = r.acknowledge sn ↔
      (r.held.map Slot.number).count sn.toWord ≤ 1 := by
  obtain ⟨m, hm⟩ := h.act (.acknowledge sn)
  have hm : (r.acknowledge sn).Holds m := hm
  rw [hm.acknowledge_eq_self_iff, ← List.count_eq_zero, h.count_acknowledge]
  omega

/-- The position found is that of a reference with the number, and no other position is. -/
structure FindsOnly (r : Ring) (sn : SequenceNumber) (p : Nat) : Prop where
  lt_capacity : p < r.capacity
  used : (r.slot p).used = true
  number_eq : (r.slot p).number = sn.toWord
  eq_of_number_eq : ∀ q < r.capacity, (r.slot q).used = true → (r.slot q).number = sn.toWord → q = p

theorem Holds.findsOnly (h : r.Holds n) (hd : (r.held.map Slot.number).Nodup)
    (hf : r.find? sn = some p) : r.FindsOnly sn p := by
  have hp := List.find?_some hf
  simp only [Bool.and_eq_true, beq_iff_eq] at hp
  obtain ⟨hused, hnumber⟩ := hp
  obtain ⟨i, hi, rfl⟩ := List.mem_map.mp (List.mem_of_find?_eq_some hf)
  have hi := List.mem_range.mp hi
  have hheld : ∀ j < r.capacity, (r.slot (r.position j)).used = true →
      j < (r.held.map Slot.number).length := by
    intro j hj hjused
    rw [List.length_map, h.length_held]
    exact (h.used_iff j hj).mp hjused
  refine ⟨position_lt h.capacity_pos i, hused, hnumber, fun q hq hqused hqnumber => ?_⟩
  obtain ⟨j, hj, rfl⟩ := exists_position h.oldest_lt hq
  have hi' := hheld i hi hused
  have hj' := hheld j hj hqused
  have hij : (r.held.map Slot.number)[j] = (r.held.map Slot.number)[i] := by
    rw [List.getElem_map, List.getElem_map, h.getElem_held, h.getElem_held, nth, nth, hqnumber, hnumber]
  rw [hd.getElem_inj_iff.mp hij]

/-! ## Packets in sequence -/

theorem Holds.queue_act_suffix (h : r.Holds n) (a : Action) :
    (r.act a).queue <:+ r.queue ++ (inserted [a]).map Insertion.entry := by
  cases a with
  | insert sn value =>
      have hq := h.queue_insert sn value
      simp only [Ring.act]
      rw [hq]
      split
      · exact List.tail_suffix _
      · exact List.suffix_rfl
  | acknowledge sn =>
      change (r.acknowledge sn).queue <:+ r.queue ++ []
      rw [List.append_nil]
      exact (h.held_acknowledge_suffix sn).map Slot.entry
  | clear => exact h.queue_clear ▸ List.nil_suffix

theorem Holds.queue_run_suffix (h : r.Holds n) (actions : List Action) :
    (r.run actions).queue <:+ r.queue ++ (inserted actions).map Insertion.entry := by
  induction actions generalizing r n with
  | nil => exact ⟨[], (List.append_nil _).symm⟩
  | cons a actions ih =>
      -- What the first action leaves behind stays in front of all that is inserted later.
      obtain ⟨m, hm⟩ := h.act a
      obtain ⟨front, hf⟩ := h.queue_act_suffix a
      have hins : inserted (a :: actions) = inserted [a] ++ inserted actions :=
        List.filterMap_append (l := [a])
      refine (ih hm).trans ⟨front, ?_⟩
      rw [← List.append_assoc, hf, hins, List.map_append, List.append_assoc]

section
variable {capacity : Nat} (hc : 0 < capacity)
include hc

theorem exists_numbers_run (actions : List Action) :
    ∃ sns, sns <:+ (inserted actions).map Prod.fst ∧
      ((empty capacity).run actions).held.map Slot.number = sns.map Counter.Reading.toWord := by
  have hs := (holds_empty hc).queue_run_suffix actions
  have hnil : (empty capacity).queue = [] :=
    List.length_eq_zero_iff.mp (holds_empty hc).length_queue
  rw [hnil, List.nil_append] at hs
  have hnumbers := hs.map Prod.fst
  rw [queue, List.map_map, List.map_map] at hnumbers
  apply List.suffix_map_iff.mp
  rw [List.map_map]
  exact hnumbers

theorem nodup_numbers_run_iff {actions : List Action}
    (h : ((inserted actions).map Prod.fst).IsChain Counter.Reading.Precedes) :
    (((empty capacity).run actions).held.map Slot.number).Nodup ↔
      ((empty capacity).run actions).held.length ≤ 65536 := by
  obtain ⟨sns, hsns, he⟩ := exists_numbers_run hc actions
  have hinj : Function.Injective (Counter.Reading.toWord : SequenceNumber → UInt32) :=
    fun _ _ => Counter.Reading.toWord_inj.mp
  have hlen : ((empty capacity).run actions).held.length = sns.length := by
    simpa using congrArg List.length he
  rw [he, List.nodup_map_iff hinj, hlen]
  exact Counter.Reading.nodup_iff_length_le (h.suffix hsns)

end

end Ring

namespace Window

/-- To acknowledge a number again changes nothing exactly if at most one reference has it. While packets
are numbered in sequence, whatever is acknowledged or cleared in between, references have different
numbers as long as no more than 65536 are held. A window with no more slots than that is never in doubt:
every acknowledgment can be repeated, and the reference found is the only one with its number. -/
theorem acknowledge_idempotent_iff :
    (∀ w : Window, w.Reachable → ∀ sn : SequenceNumber,
      (w.ring.acknowledge sn).acknowledge sn = w.ring.acknowledge sn ↔
        (w.ring.held.map Slot.number).count sn.toWord ≤ 1) ∧
    ∀ memory maxBits capacity shift f w, create memory maxBits capacity shift f = .ok w → ∀ actions,
      ((inserted actions).map Prod.fst).IsChain Counter.Reading.Precedes →
        let r := (w.run actions).ring
        ((r.held.map Slot.number).Nodup ↔ r.held.length ≤ 65536) ∧
        (capacity ≤ 65536 → (r.held.map Slot.number).Nodup ∧ ∀ sn : SequenceNumber,
          (r.acknowledge sn).acknowledge sn = r.acknowledge sn ∧
            ∀ p, r.find? sn = some p → r.FindsOnly sn p) := by
  refine ⟨fun w h sn => h.holds.acknowledge_acknowledge_iff sn, ?_⟩
  intro memory maxBits capacity shift f w hw actions hchain r
  have hr : r.Holds r.held.length := ((Reachable.start hw).run actions).holds
  obtain ⟨-, hc, -, rfl⟩ := create_eq_ok_iff.mp hw
  have hpos := Nat.pos_of_ne_zero hc
  have hrun : r = (Ring.empty capacity).run actions := congrArg ring (run_eq _ actions)
  have hiff : (r.held.map Slot.number).Nodup ↔ r.held.length ≤ 65536 := by
    rw [hrun]
    exact Ring.nodup_numbers_run_iff hpos hchain
  refine ⟨hiff, fun hle => ?_⟩
  have hcap : r.capacity = capacity := by
    rw [hrun, (Ring.holds_empty hpos).capacity_run]
    simp [Ring.empty, Ring.capacity]
  have hd := hiff.mpr (hr.le_capacity.trans (hcap ▸ hle))
  refine ⟨hd, fun sn => ⟨?_, fun p hp => hr.findsOnly hd hp⟩⟩
  exact (hr.acknowledge_acknowledge_iff sn).mpr (List.nodup_iff_count_le_one.mp hd sn.toWord)

/-- The number 1 used twice, and a sequence across the wrap to zero, cleared on its way. -/
theorem acknowledge_idempotent_iff_across_wrap : ∃ w : Window,
    create .ample 16 3 .rtpSequenceNumber standardInterval = .ok w ∧
    let twice :=
      (w.run [.insert (.ofNat _ 1) 10, .insert (.ofNat _ 2) 20, .insert (.ofNat _ 1) 30]).ring
    let once := (w.run [.insert (.ofNat _ 65534) 5, .acknowledge (.ofNat _ 9), .clear,
      .insert (.ofNat _ 65535) 6, .insert (.ofNat _ 0) 7, .acknowledge (.ofNat _ 65535),
      .insert (.ofNat _ 1) 8]).ring
    (twice.acknowledge (.ofNat _ 1)).acknowledge (.ofNat _ 1) ≠ twice.acknowledge (.ofNat _ 1) ∧
      (once.held.map Slot.number).Nodup ∧
      (once.acknowledge (.ofNat _ 0)).acknowledge (.ofNat _ 0) = once.acknowledge (.ofNat _ 0) ∧
      ∃ p, once.find? (.ofNat _ 0) = some p ∧ once.FindsOnly (.ofNat _ 0) p := by
  have hw := create_ample 16 3 .rtpSequenceNumber standardInterval (by decide) (by decide)
  have htwice := (Reachable.start hw).run
    [.insert (.ofNat _ 1) 10, .insert (.ofNat _ 2) 20, .insert (.ofNat _ 1) 30]
  obtain ⟨-, honce⟩ := acknowledge_idempotent_iff.2 _ _ _ _ _ _ hw
    [.insert (.ofNat _ 65534) 5, .acknowledge (.ofNat _ 9), .clear, .insert (.ofNat _ 65535) 6,
      .insert (.ofNat _ 0) 7, .acknowledge (.ofNat _ 65535), .insert (.ofNat _ 1) 8] (by decide)
  obtain ⟨hd, hack⟩ := honce (by decide)
  obtain ⟨hagain, hfind⟩ := hack (.ofNat _ 0)
  refine ⟨_, hw, ?_, hd, hagain, 1, by decide, hfind 1 (by decide)⟩
  exact (acknowledge_idempotent_iff.1 _ htwice (.ofNat _ 1)).not.mpr (by decide)

end Window
end WindowedLsb
