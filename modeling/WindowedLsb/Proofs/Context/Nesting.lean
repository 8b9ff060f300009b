import WindowedLsb.Proofs.Context.Packets

/-!
Windows of different widths stay nested. They evict at different times, so that an acknowledgment may
find its reference in one and not in another; still a narrower window holds the newest packets of a wider
one, as long as no number is used again while a window holds it.
-/

namespace WindowedLsb.FieldWindows

variable {memory : Memory} {w : FieldWindows} {sn ts ipId : Config} {c c' : Counter}
  {capacity narrow wide : Nat}
  {held : List Packet} {actions before after : List Action} {a : Action}

/-! ## One action -/

/-- If no two packets have the same number, acknowledgment keeps the last run of packets with other
numbers. -/
theorem keep_acknowledge_of_nodup (hd : (held.map Packet.sn).Nodup) (capacity : Nat)
    (sn : SequenceNumber) :
    keep capacity held (.acknowledge sn) = held.rtakeWhile fun p => p.sn ≠ sn := by
  rw [keep]
  split
  · rename_i hm
    obtain ⟨p, hp, hs⟩ := List.any_eq_true.mp hm
    obtain rfl := beq_iff_eq.mp hs
    obtain ⟨before, after, rfl⟩ := List.append_of_mem hp
    obtain ⟨hb, ha⟩ := ne_of_nodup_map hd
    rw [behindFirst_append (by simpa using hb) (by simp),
      rtakeWhile_append_cons (by simp) (by simpa using ha)]
  · rename_i hm
    exact (List.rtakeWhile_eq_self_iff.mpr (by simpa using hm)).symm

theorem nodup_keep (hd : (held.map Packet.sn).Nodup)
    (ha : ∀ p, a = .record p → p.sn ∉ held.map Packet.sn) (capacity : Nat) :
    ((keep capacity held a).map Packet.sn).Nodup := by
  cases a with
  | record p =>
      have hp : ((held ++ [p]).map Packet.sn).Nodup := by
        rw [List.map_append, List.map_singleton, ← List.concat_eq_append]
        exact hd.concat (ha p rfl)
      exact ((rtake_suffix _ _).sublist.map _).nodup hp
  | acknowledge sn =>
      rw [keep_acknowledge_of_nodup hd]
      exact ((List.rtakeWhile_suffix _ _).sublist.map _).nodup hd
  | clear => exact List.nodup_nil

/-- What a narrow queue keeps of the end of a wide one is the end of what the wide one keeps. -/
theorem keep_rtake (hle : narrow ≤ wide) (hd : (held.map Packet.sn).Nodup) (a : Action) :
    keep narrow (held.rtake narrow) a = (keep wide held a).rtake narrow := by
  cases a with
  | record p => rw [keep, keep, rtake_rtake_concat, rtake_rtake_of_le hle]
  | acknowledge sn =>
      have hd' : ((held.rtake narrow).map Packet.sn).Nodup :=
        ((rtake_suffix _ _).sublist.map _).nodup hd
      rw [keep_acknowledge_of_nodup hd, keep_acknowledge_of_nodup hd', rtake_rtakeWhile]
  | clear => exact (List.rtake_nil _).symm

/-! ## Runs -/

/-- No packet is recorded under a number that a queue of this capacity still holds. -/
def Fresh (capacity : Nat) (actions : List Action) : Prop :=
  ∀ before a after, actions = before ++ a :: after →
    ∀ p, a = .record p → p.sn ∉ (kept capacity before).map Packet.sn

theorem nodup_kept (hf : Fresh capacity actions) :
    ((kept capacity actions).map Packet.sn).Nodup := by
  induction actions using List.reverseRecOn with
  | nil => exact List.nodup_nil
  | append_singleton actions a ih =>
      obtain ⟨hf, ha⟩ := forall_split_concat.mp hf
      rw [kept_concat]
      exact nodup_keep (ih hf) ha capacity

theorem kept_eq_rtake (hle : narrow ≤ wide) (hf : Fresh wide actions) :
    kept narrow actions = (kept wide actions).rtake narrow := by
  induction actions using List.reverseRecOn with
  | nil => exact (List.rtake_nil _).symm
  | append_singleton actions a ih =>
      have hf' := (forall_split_concat.mp hf).1
      rw [kept_concat, kept_concat, ih hf', keep_rtake hle (nodup_kept hf')]

/-! ## Windows -/

/-- No packet is recorded under a number that one of the windows still holds. -/
def RecordsFresh (w : FieldWindows) (actions : List Action) : Prop :=
  ∀ before a after, actions = before ++ a :: after →
    ∀ p, a = .record p → ∀ c, p.sn.toWord ∉ ((w.run before).window c).ring.numbers

theorem recordsFresh_nil (w : FieldWindows) : w.RecordsFresh [] := fun before a after he => by
  simp at he

theorem recordsFresh_concat : w.RecordsFresh (actions ++ [a]) ↔ w.RecordsFresh actions ∧
    ∀ p, a = .record p → ∀ c, p.sn.toWord ∉ ((w.run actions).window c).ring.numbers :=
  forall_split_concat

theorem RecordsFresh.record (h : w.RecordsFresh actions) (p : Packet)
    (hp : ∀ c, p.sn.toWord ∉ ((w.run actions).window c).ring.numbers) :
    w.RecordsFresh (actions ++ [.record p]) :=
  recordsFresh_concat.mpr ⟨h, fun _ hq => Action.record.inj hq ▸ hp⟩

theorem RecordsFresh.acknowledge (h : w.RecordsFresh actions) (sn : SequenceNumber) :
    w.RecordsFresh (actions ++ [.acknowledge sn]) :=
  recordsFresh_concat.mpr ⟨h, fun _ hp => by cases hp⟩

theorem RecordsFresh.fresh (hw : ofConfigs memory sn ts ipId = .ok w) (h : w.RecordsFresh actions)
    (c : Counter) : Fresh (w.window c).ring.capacity actions := by
  intro before a after he p hp hm
  obtain ⟨q, hq, hs⟩ := List.mem_map.mp hm
  apply h before a after he p hp c
  rw [numbers_window_run hw, ← hs]
  exact List.mem_map_of_mem hq

theorem numbers_run_eq_rtake (hw : ofConfigs memory sn ts ipId = .ok w) (h : w.RecordsFresh actions)
    (hle : (w.window c).ring.capacity ≤ (w.window c').ring.capacity) :
    ((w.run actions).window c).ring.numbers =
      ((w.run actions).window c').ring.numbers.rtake (w.window c).ring.capacity := by
  rw [numbers_window_run hw, numbers_window_run hw, kept_eq_rtake hle (h.fresh hw c'), map_rtake]

/-- Of two windows of a context, the one with the smaller capacity holds the newest references of the
other, as many as it has room for, in every run that records no packet under a number still held. So
after any acknowledgment, found in both or in the wider one only, it holds none that the other dropped. -/
theorem narrower_holds_newest_of_wider (hw : ofConfigs memory sn ts ipId = .ok w)
    (hf : w.RecordsFresh actions) (c c' : Counter)
    (hle : (w.window c).ring.capacity ≤ (w.window c').ring.capacity) :
    ((w.run actions).window c).ring.numbers =
      ((w.run actions).window c').ring.numbers.rtake
        (min (w.window c).ring.capacity ((w.run actions).window c').ring.numbers.length) ∧
    ∀ sn : SequenceNumber,
      ((w.run (actions ++ [.acknowledge sn])).window c).ring.numbers ⊆
        ((w.run (actions ++ [.acknowledge sn])).window c').ring.numbers := by
  refine ⟨?_, fun sn => ?_⟩
  · rw [rtake_min_length]
    exact numbers_run_eq_rtake hw hf hle
  · rw [numbers_run_eq_rtake hw (hf.acknowledge sn) hle]
    exact (rtake_suffix _ _).subset

/-- The narrower window has evicted packet 1, and ignores its acknowledgment. -/
theorem narrower_holds_newest_of_wider_after_eviction : ∃ (w : FieldWindows) (actions : List Action),
    ofConfigs .ample ⟨16, 2, .rtpSequenceNumber⟩ ⟨32, 4, .rtpTimestamp⟩ ⟨16, 3, .fixed 0⟩ = .ok w ∧
      w.RecordsFresh actions ∧
      (w.run actions).ts.ring.numbers = [1, 2, 3] ∧
      (w.run actions).sn.ring.numbers = (w.run actions).ts.ring.numbers.rtake (min 2 3) ∧
      (w.run (actions ++ [.acknowledge (.ofNat _ 1)])).sn.ring.numbers ⊆
        (w.run (actions ++ [.acknowledge (.ofNat _ 1)])).ts.ring.numbers := by
  have h0 := recordsFresh_nil ⟨⟨.empty 2, 16, .rtpSequenceNumber, standardInterval⟩,
    ⟨.empty 4, 32, .rtpTimestamp, standardInterval⟩, ⟨.empty 3, 16, .fixed 0, standardInterval⟩⟩
  have h1 := h0.record ⟨.ofNat _ 1, .ofNat _ 160, .ofNat _ 7⟩ (fun c => by cases c <;> decide)
  have h2 := h1.record ⟨.ofNat _ 2, .ofNat _ 320, .ofNat _ 8⟩ (fun c => by cases c <;> decide)
  have h3 := h2.record ⟨.ofNat _ 3, .ofNat _ 480, .ofNat _ 9⟩ (fun c => by cases c <;> decide)
  have hw : ofConfigs .ample ⟨16, 2, .rtpSequenceNumber⟩ ⟨32, 4, .rtpTimestamp⟩ ⟨16, 3, .fixed 0⟩ =
      .ok _ := rfl
  have h := narrower_holds_newest_of_wider hw h3 .sequenceNumber .timestamp (by decide)
  exact ⟨_, _, hw, h3, by decide, h.1, h.2 _⟩

end WindowedLsb.FieldWindows
