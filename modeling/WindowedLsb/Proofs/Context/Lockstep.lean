import WindowedLsb.Proofs.Context.Packets

/-!
Windows of one width stay in lockstep. Each searches, evicts and compacts by itself, yet after the same
run their cursors are the same, and the references at one place are the fields of one packet.
-/

namespace WindowedLsb

namespace FieldWindows

variable {memory : Memory} {w : FieldWindows} {sn ts ipId : Config} {c c' : Counter}

/-- The insertion cursor does not depend on the field. -/
theorem next_run_eq {r s : Ring} {m n : Nat} (hr : r.Holds m) (hs : s.Holds n)
    (hc : r.capacity = s.capacity) (hx : r.next = s.next) (actions : List Action) :
    (r.run (actions.map (Action.on c))).next = (s.run (actions.map (Action.on c'))).next := by
  induction actions generalizing r s m n with
  | nil => exact hx
  | cons a actions ih =>
      obtain ⟨m', hr'⟩ := hr.act (a.on c)
      obtain ⟨n', hs'⟩ := hs.act (a.on c')
      refine ih hr' hs' (by rw [hr.capacity_act, hs.capacity_act, hc]) ?_
      rw [hr.next_act, hs.next_act]
      cases a with
      | record p => simp only [Action.on, Ring.after, hc, hx]
      | acknowledge sn => exact hx
      | clear => rfl

/-- The windows have the same cursors and packet numbers, and hold, place by place, the fields of the
same packets, the last ones of those recorded. -/
structure InStep (w : FieldWindows) (past : List Packet) : Prop where
  oldest_eq : ∀ c c', (w.window c).ring.oldest = (w.window c').ring.oldest
  next_eq : ∀ c c', (w.window c).ring.next = (w.window c').ring.next
  numbers_eq : ∀ c c', (w.window c).ring.numbers = (w.window c').ring.numbers
  held_eq : ∃ packets, packets <:+ past ∧
    ∀ c, (w.window c).ring.held = packets.map fun p => ⟨p.sn.toWord, p.word c, true⟩

theorem inStep_run (hw : ofConfigs memory sn ts ipId = .ok w) (ht : ts.width = sn.width)
    (hi : ipId.width = sn.width) (actions : List Action) :
    (w.run actions).InStep (recorded actions) := by
  have hcap : ∀ c, (w.window c).ring.capacity = sn.width.toNat := fun c => by
    rw [capacity_window hw]
    cases c with
    | sequenceNumber => rfl
    | timestamp => exact congrArg UInt64.toNat ht
    | ipId => exact congrArg UInt64.toNat hi
  have hheld : ∀ c, ((w.run actions).window c).ring.held =
      (kept sn.width.toNat actions).map fun p => ⟨p.sn.toWord, p.word c, true⟩ := fun c => by
    rw [held_window_run hw, hcap]
  have hnext : ∀ c c', ((w.run actions).window c).ring.next =
      ((w.run actions).window c').ring.next := fun c c' => by
    have h := (reachable_window hw c).holds
    have h' := (reachable_window hw c').holds
    have hstart : (w.window c).ring.next = (w.window c').ring.next := by
      rw [ring_window hw, ring_window hw]
      rfl
    simp only [window_run, Window.run_eq]
    exact next_run_eq h h' (by rw [hcap, hcap]) hstart actions
  refine ⟨fun c c' => ?_, hnext, fun c c' => ?_, _, kept_suffix _ _, hheld⟩
  · have h := (reachable_window_run hw actions c).holds
    have h' := (reachable_window_run hw actions c').holds
    have hc : ((w.run actions).window c).ring.capacity = ((w.run actions).window c').ring.capacity := by
      rw [capacity_window_run hw, capacity_window_run hw, hcap, hcap]
    rw [hheld, List.length_map] at h h'
    exact h.oldest_eq h' hc (hnext c c')
  · rw [numbers_window_run hw, numbers_window_run hw, hcap, hcap]

/-- A context made with one width for all its windows, whatever their other parameters, has them in step
after every run: any packet numbers may be recorded, repeated and acknowledged. -/
theorem windows_stay_in_step (actions : List Action) :
    (∀ memory width w, create memory width = .ok w → (w.run actions).InStep (recorded actions)) ∧
    ∀ memory sn ts ipId w, ofConfigs memory sn ts ipId = .ok w →
      ts.width = sn.width → ipId.width = sn.width → (w.run actions).InStep (recorded actions) :=
  ⟨fun _ _ _ hw => inStep_run hw rfl rfl actions,
    fun _ _ _ _ _ hw ht hi => inStep_run hw ht hi actions⟩

/-- A third packet evicts the first, whose number it has, and an unknown number is acknowledged. -/
theorem windows_stay_in_step_repeated_number : ∃ (w v : FieldWindows) (actions : List Action),
    create .ample 2 = .ok w ∧
      ofConfigs .ample ⟨9, 2, .fixed 3⟩ ⟨32, 2, .rtpTimestamp⟩ ⟨1, 2, .fixed (-1)⟩ = .ok v ∧
      (w.run actions).InStep (recorded actions) ∧ (v.run actions).InStep (recorded actions) ∧
      (w.run actions).sn.ring.queue = [(2, 2), (1, 1)] ∧
      (w.run actions).ts.ring.queue = [(2, 320), (1, 480)] ∧
      (w.run actions).ipId.ring.queue = [(2, 8), (1, 9)] := by
  have h := windows_stay_in_step
    [.record ⟨.ofNat _ 1, .ofNat _ 160, .ofNat _ 7⟩, .record ⟨.ofNat _ 2, .ofNat _ 320, .ofNat _ 8⟩,
      .record ⟨.ofNat _ 1, .ofNat _ 480, .ofNat _ 9⟩, .acknowledge (.ofNat _ 5)]
  have hw := h.1 .ample 2 _ rfl
  have hv := h.2 .ample ⟨9, 2, .fixed 3⟩ ⟨32, 2, .rtpTimestamp⟩ ⟨1, 2, .fixed (-1)⟩ _ rfl rfl rfl
  exact ⟨_, _, _, rfl, rfl, hw, hv, by decide, by decide, by decide⟩

end FieldWindows
end WindowedLsb
