import Mathlib.Data.Finset.Lattice.Lemmas
import WindowedLsb.Proofs.ListEnd
import WindowedLsb.Proofs.Ring.Records

/-!
Late, reordered and repeated acknowledgments. Whenever they arrive after their packets, the window
ends in the same state: of all packets acknowledged only the one inserted last counts.
-/

namespace WindowedLsb

/-! ## Insertions and acknowledgments of a run -/

abbrev Insertion := SequenceNumber × UInt32

def Insertion.entry (e : Insertion) : Entry := (e.1.toWord, e.2)

def inserted (actions : List Ring.Action) : List Insertion :=
  actions.filterMap fun
    | .insert sn value => some (sn, value)
    | _ => none

def acknowledged (actions : List Ring.Action) : Finset SequenceNumber :=
  (actions.filterMap fun
    | .acknowledge sn => some sn
    | _ => none).toFinset

/-- A run that is never cleared, in which every acknowledgment comes after the insertion of its packet
number. -/
structure Orderly (actions : List Ring.Action) : Prop where
  no_clear : .clear ∉ actions
  inserted_before : ∀ before sn after, actions = before ++ .acknowledge sn :: after →
    sn ∈ (inserted before).map Prod.fst

/-- The insertions after every acknowledged one, and of these the last `capacity`. -/
def latest (capacity : Nat) (acked : Finset SequenceNumber) (inserts : List Insertion) :
    List Insertion :=
  (inserts.rtakeWhile fun e => e.1 ∉ acked).rtake capacity

theorem Orderly.of_append {before after : List Ring.Action} (h : Orderly (before ++ after)) :
    Orderly before where
  no_clear hm := h.no_clear (List.mem_append_left after hm)
  inserted_before front sn back he :=
    h.inserted_before front sn (back ++ after) (by rw [he, List.append_assoc, List.cons_append])

theorem orderly_nil : Orderly [] where
  no_clear := List.not_mem_nil
  inserted_before before sn after he := by simp at he

theorem Orderly.concat {actions : List Ring.Action} {a : Ring.Action} (h : Orderly actions)
    (hc : a ≠ .clear)
    (ha : ∀ sn, a = .acknowledge sn → sn ∈ (inserted actions).map Prod.fst) :
    Orderly (actions ++ [a]) where
  no_clear hm := by
    rcases List.mem_append.mp hm with hm | hm
    · exact h.no_clear hm
    · exact hc (List.mem_singleton.mp hm).symm
  inserted_before before sn after he := by
    have hall : ∀ before x after, actions ++ [a] = before ++ x :: after →
        ∀ sn, x = .acknowledge sn → sn ∈ (inserted before).map Prod.fst :=
      forall_split_concat.mpr
        ⟨fun before x after hx sn hs => h.inserted_before before sn after (hs ▸ hx), ha⟩
    exact hall before _ after he sn rfl

theorem Orderly.insert {actions : List Ring.Action} (h : Orderly actions) (sn : SequenceNumber)
    (value : UInt32) : Orderly (actions ++ [.insert sn value]) :=
  h.concat (by simp) (by simp)

theorem Orderly.acknowledge {actions : List Ring.Action} (h : Orderly actions)
    (sn : SequenceNumber) (hs : sn ∈ (inserted actions).map Prod.fst) :
    Orderly (actions ++ [.acknowledge sn]) :=
  h.concat (by simp) (by rintro _ ⟨⟩; exact hs)

theorem Orderly.mem_inserted {actions : List Ring.Action} (h : Orderly actions)
    {sn : SequenceNumber} (hs : sn ∈ acknowledged actions) : sn ∈ (inserted actions).map Prod.fst := by
  simp only [acknowledged, List.mem_toFinset, List.mem_filterMap] at hs
  obtain ⟨a, ha, hsn⟩ := hs
  cases a with
  | acknowledge sn' =>
      obtain rfl : sn' = sn := by simpa using hsn
      obtain ⟨before, after, he⟩ := List.append_of_mem ha
      have hm := h.inserted_before before sn' after he
      rw [he, inserted, List.filterMap_append, List.map_append]
      exact List.mem_append_left _ hm
  | insert _ _ => simp at hsn
  | clear => simp at hsn

section
variable (actions : List Ring.Action) (sn : SequenceNumber) (value : UInt32)

theorem inserted_insert : inserted (actions ++ [.insert sn value]) =
    inserted actions ++ [(sn, value)] := by
  simp [inserted]

theorem inserted_acknowledge : inserted (actions ++ [.acknowledge sn]) = inserted actions := by
  simp [inserted]

theorem acknowledged_insert : acknowledged (actions ++ [.insert sn value]) =
    acknowledged actions := by
  simp [acknowledged]

theorem acknowledged_acknowledge : acknowledged (actions ++ [.acknowledge sn]) =
    insert sn (acknowledged actions) := by
  simp [acknowledged]

end

/-! ## The references that stay -/

section
variable {capacity : Nat} {acked : Finset SequenceNumber} {inserts : List Insertion}
  {sn : SequenceNumber}

theorem latest_concat (hs : sn ∉ acked) (value : UInt32) :
    latest capacity acked (inserts ++ [(sn, value)]) =
      if (latest capacity acked inserts).length = capacity then
        (latest capacity acked inserts ++ [(sn, value)]).tail
      else latest capacity acked inserts ++ [(sn, value)] := by
  rw [latest, List.rtakeWhile_concat_pos _ _ _ (by simpa using hs), rtake_concat]
  rfl

theorem latest_insert (capacity : Nat) (acked : Finset SequenceNumber) (inserts : List Insertion)
    (sn : SequenceNumber) : latest capacity (insert sn acked) inserts =
      (latest capacity acked inserts).rtakeWhile fun e => e.1 ≠ sn := by
  rw [latest, latest, ← rtake_rtakeWhile, rtakeWhile_rtakeWhile]
  simp only [Finset.mem_insert, not_or, Bool.decide_and, ne_eq]

theorem nodup_latest (hd : (inserts.map Prod.fst).Nodup) :
    ((latest capacity acked inserts).map Prod.fst).Nodup := by
  have hs : (latest capacity acked inserts).Sublist inserts :=
    (List.drop_sublist _ _).trans (List.rtakeWhile_suffix _ _).sublist
  exact (hs.map Prod.fst).nodup hd

theorem latest_acknowledge {before after : List Insertion} {value : UInt32}
    (hl : latest capacity acked inserts = before ++ (sn, value) :: after)
    (ha : ∀ e ∈ after, e.1 ≠ sn) : latest capacity (insert sn acked) inserts = after := by
  rw [latest_insert, hl]
  exact rtakeWhile_append_cons (by simp) (by simpa using ha)

/-- A late acknowledgment, of a reference that is gone, takes nothing. -/
theorem latest_acknowledge_gone (hg : ∀ e ∈ latest capacity acked inserts, e.1 ≠ sn) :
    latest capacity (insert sn acked) inserts = latest capacity acked inserts := by
  rw [latest_insert]
  exact List.rtakeWhile_eq_self_iff.mpr (by simpa using hg)

end

/-! ## One action after an orderly run -/

section
variable {r : Ring} {n : Nat} {acked : Finset SequenceNumber} {inserts : List Insertion}
  {sn : SequenceNumber}

theorem entry_ne {l : List Insertion} (h : ∀ e ∈ l, e.1 ≠ sn) :
    ∀ x ∈ l.map Insertion.entry, x.1 ≠ sn.toWord := by
  intro x hx hxs
  obtain ⟨e, he, rfl⟩ := List.mem_map.mp hx
  exact h e he (Counter.Reading.toWord_inj.mp hxs)

theorem queue_insert_eq_latest (h : r.Holds n)
    (hq : r.queue = (latest r.capacity acked inserts).map Insertion.entry) (hs : sn ∉ acked)
    (value : UInt32) : (r.insert sn value).queue =
      (latest r.capacity acked (inserts ++ [(sn, value)])).map Insertion.entry := by
  rw [h.queue_insert, hq, latest_concat hs, List.length_map]
  split
  · rw [List.map_tail, List.map_append]
    rfl
  · rw [List.map_append]
    rfl

theorem queue_acknowledge_eq_latest (h : r.Holds n)
    (hq : r.queue = (latest r.capacity acked inserts).map Insertion.entry)
    (hd : (inserts.map Prod.fst).Nodup) (sn : SequenceNumber) : (r.acknowledge sn).queue =
      (latest r.capacity (insert sn acked) inserts).map Insertion.entry := by
  by_cases hm : ∃ e ∈ latest r.capacity acked inserts, e.1 = sn
  · obtain ⟨⟨sn, value⟩, he, rfl⟩ := hm
    obtain ⟨before, after, hl⟩ := List.append_of_mem he
    obtain ⟨hb, ha⟩ := ne_of_nodup_map (hl ▸ nodup_latest hd)
    rw [hl, List.map_append, List.map_cons] at hq
    have hx : Insertion.entry (sn, value) ∈ r.queue := by simp [hq]
    rw [h.queue_acknowledge ⟨_, hx, rfl⟩, hq, Ring.behind_append (entry_ne hb) rfl,
      latest_acknowledge hl ha]
  · have hg : ∀ e ∈ latest r.capacity acked inserts, e.1 ≠ sn := fun e he hes => hm ⟨e, he, hes⟩
    rw [h.acknowledge_unknown (hq ▸ entry_ne hg), hq, latest_acknowledge_gone hg]

end

/-- An orderly run leaves the insertions that come after every acknowledged one, as far as the ring
has room. -/
theorem Orderly.queue_run {capacity : Nat} (hc : 0 < capacity) {actions : List Ring.Action}
    (h : Orderly actions) (hd : ((inserted actions).map Prod.fst).Nodup) :
    ((Ring.empty capacity).run actions).queue =
      (latest capacity (acknowledged actions) (inserted actions)).map Insertion.entry := by
  have hempty := Ring.holds_empty hc
  induction actions using List.reverseRecOn with
  | nil =>
      have hq := List.length_eq_zero_iff.mp hempty.length_queue
      simp [Ring.run, hq, latest, inserted]
  | append_singleton actions a ih =>
      obtain ⟨n, hn⟩ := hempty.run actions
      have hcap : ((Ring.empty capacity).run actions).capacity = capacity := by
        rw [hempty.capacity_run]
        simp [Ring.empty, Ring.capacity]
      have hrun : (Ring.empty capacity).run (actions ++ [a]) =
          ((Ring.empty capacity).run actions).act a := List.foldl_concat ..
      rw [hrun]
      generalize (Ring.empty capacity).run actions = r at hn hcap ih ⊢
      subst hcap
      cases a with
      | insert sn value =>
          rw [inserted_insert] at hd ⊢
          rw [acknowledged_insert]
          rw [List.map_append] at hd
          -- Nothing acknowledged so far can have the new packet's number.
          have hs : sn ∉ acknowledged actions := fun hm =>
            List.disjoint_of_nodup_append hd (h.of_append.mem_inserted hm) (by simp)
          exact queue_insert_eq_latest hn (ih h.of_append hd.of_append_left) hs value
      | acknowledge sn =>
          rw [inserted_acknowledge] at hd ⊢
          rw [acknowledged_acknowledge]
          exact queue_acknowledge_eq_latest hn (ih h.of_append hd) hd sn
      | clear => exact absurd (by simp) h.no_clear

/-! ## The slots written -/

def Ring.insertAll (r : Ring) (inserts : List Insertion) : Ring :=
  inserts.foldl (fun r e => r.insert e.1 e.2) r

/-- Without clearing, a run writes the same slots as its insertions alone. -/
theorem Ring.Holds.records_run {r s : Ring} {n : Nat} (h : r.Holds n) {actions : List Ring.Action}
    (hc : .clear ∉ actions) (hr : r.records = s.records) (hx : r.next = s.next) :
    (r.run actions).records = (s.insertAll (inserted actions)).records ∧
      (r.run actions).next = (s.insertAll (inserted actions)).next := by
  induction actions generalizing r s n with
  | nil => exact ⟨hr, hx⟩
  | cons a actions ih =>
      obtain ⟨m, hm⟩ := h.act a
      rw [List.mem_cons, not_or] at hc
      obtain ⟨ha, hc⟩ := hc
      cases a with
      | insert sn value =>
          obtain ⟨hr', hx'⟩ := Ring.records_insert_congr hr hx sn value
          exact ih hm hc hr' hx'
      | acknowledge sn =>
          obtain ⟨hr', hx'⟩ := h.records_acknowledge sn
          exact ih hm hc (hr'.trans hr) (hx'.trans hx)
      | clear => exact absurd rfl ha

/-! ## Schedules -/

/-- A run that makes the given insertions in their order and acknowledges exactly the given packet
numbers, each once or more, at any time after its insertion. -/
structure Schedule (inserts : List Insertion) (acked : Finset SequenceNumber)
    (actions : List Ring.Action) : Prop extends Orderly actions where
  inserted_eq : inserted actions = inserts
  acknowledged_eq : acknowledged actions = acked

section
variable {capacity : Nat} {inserts : List Insertion} {acked : Finset SequenceNumber}
  {actions actions' : List Ring.Action}

theorem Schedule.queue_run (h : Schedule inserts acked actions) (hc : 0 < capacity)
    (hd : (inserts.map Prod.fst).Nodup) : ((Ring.empty capacity).run actions).queue =
      (latest capacity acked inserts).map Insertion.entry := by
  have hq := h.toOrderly.queue_run hc (h.inserted_eq ▸ hd)
  rwa [h.inserted_eq, h.acknowledged_eq] at hq

theorem Schedule.run_eq (h : Schedule inserts acked actions) (h' : Schedule inserts acked actions')
    (hc : 0 < capacity) (hd : (inserts.map Prod.fst).Nodup) :
    (Ring.empty capacity).run actions = (Ring.empty capacity).run actions' := by
  have he := Ring.holds_empty hc
  obtain ⟨n, hn⟩ := he.run actions
  obtain ⟨n', hn'⟩ := he.run actions'
  obtain ⟨hr, hx⟩ := he.records_run h.no_clear rfl rfl
  obtain ⟨hr', hx'⟩ := he.records_run h'.no_clear rfl rfl
  rw [h.inserted_eq] at hr hx
  rw [h'.inserted_eq] at hr' hx'
  have hlen : n = n' := by
    rw [← hn.length_queue, ← hn'.length_queue, h.queue_run hc hd, h'.queue_run hc hd]
  subst hlen
  exact hn.eq_of_records hn' (hr.trans hr'.symm) (hx.trans hx'.symm)

end

namespace Window

variable {memory : Memory} {w : Window} {maxBits : UInt8} {capacity : Nat} {shift : Shift}
  {f : IntervalFunction}

/-- However late, out of order or often the feedback for distinct packets comes, the window ends in
one state: free slots and cursors too are the same, and it holds the insertions that come after every
acknowledged one, the last of them if there are more than it has room for. -/
theorem run_eq_of_same_feedback (hw : create memory maxBits capacity shift f = .ok w)
    {inserts : List Insertion} (hd : (inserts.map Prod.fst).Nodup)
    (acked : Finset SequenceNumber) :
    (∀ actions actions', Schedule inserts acked actions → Schedule inserts acked actions' →
      w.run actions = w.run actions') ∧
    ∀ actions, Schedule inserts acked actions →
      (w.run actions).ring.queue = (latest capacity acked inserts).map Insertion.entry := by
  obtain ⟨-, hc, -, rfl⟩ := create_eq_ok_iff.mp hw
  have hpos := Nat.pos_of_ne_zero hc
  refine ⟨fun actions actions' h h' => ?_, fun actions h => ?_⟩
  · rw [run_eq, run_eq]
    simp only [h.run_eq h' hpos hd]
  · rw [run_eq]
    exact h.queue_run hpos hd

/-- Three packets in two slots, the first two acknowledged: in the wrong order before the third is
inserted, or late and one of them twice. -/
theorem run_eq_of_same_feedback_late : ∃ w : Window,
    create .ample 16 2 .rtpSequenceNumber standardInterval = .ok w ∧
      w.run [.insert (.ofNat _ 1) 10, .insert (.ofNat _ 2) 20, .acknowledge (.ofNat _ 2),
        .acknowledge (.ofNat _ 1), .insert (.ofNat _ 3) 30] =
      w.run [.insert (.ofNat _ 1) 10, .acknowledge (.ofNat _ 1), .insert (.ofNat _ 2) 20,
        .insert (.ofNat _ 3) 30, .acknowledge (.ofNat _ 1), .acknowledge (.ofNat _ 2)] ∧
      (w.run [.insert (.ofNat _ 1) 10, .insert (.ofNat _ 2) 20, .acknowledge (.ofNat _ 2),
        .acknowledge (.ofNat _ 1), .insert (.ofNat _ 3) 30]).ring.queue = [(3, 30)] := by
  have hw := create_ample 16 2 .rtpSequenceNumber standardInterval (by decide) (by decide)
  have hd : (([(.ofNat _ 1, 10), (.ofNat _ 2, 20), (.ofNat _ 3, 30)] : List Insertion).map
      Prod.fst).Nodup := by decide
  have h := run_eq_of_same_feedback hw hd {.ofNat _ 1, .ofNat _ 2}
  have early : Orderly [.insert (.ofNat _ 1) 10, .insert (.ofNat _ 2) 20,
      .acknowledge (.ofNat _ 2), .acknowledge (.ofNat _ 1), .insert (.ofNat _ 3) 30] := by
    have h2 := (orderly_nil.insert (.ofNat _ 1) 10).insert (.ofNat _ 2) 20
    have h4 := (h2.acknowledge (.ofNat _ 2) (by decide)).acknowledge (.ofNat _ 1) (by decide)
    exact h4.insert (.ofNat _ 3) 30
  have late : Orderly [.insert (.ofNat _ 1) 10, .acknowledge (.ofNat _ 1),
      .insert (.ofNat _ 2) 20, .insert (.ofNat _ 3) 30, .acknowledge (.ofNat _ 1),
      .acknowledge (.ofNat _ 2)] := by
    have h2 := (orderly_nil.insert (.ofNat _ 1) 10).acknowledge (.ofNat _ 1) (by decide)
    have h4 := (h2.insert (.ofNat _ 2) 20).insert (.ofNat _ 3) 30
    exact (h4.acknowledge (.ofNat _ 1) (by decide)).acknowledge (.ofNat _ 2) (by decide)
  have hs : Schedule [(.ofNat _ 1, 10), (.ofNat _ 2, 20), (.ofNat _ 3, 30)]
      {.ofNat _ 1, .ofNat _ 2} _ := ⟨early, by decide, by decide⟩
  refine ⟨_, hw, h.1 _ _ hs ⟨late, by decide, by decide⟩, ?_⟩
  rw [h.2 _ hs]
  decide

end Window
end WindowedLsb
