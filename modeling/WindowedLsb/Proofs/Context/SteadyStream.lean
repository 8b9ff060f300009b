import WindowedLsb.Proofs.Context.Packets
import WindowedLsb.Proofs.Sequence
import WindowedLsb.Proofs.Width

/-!
What the packet number costs in a steady stream. While packets are numbered one after the other, the
window holds the numbers just before the next one whatever is acknowledged, and the width depends only on
how many they are, unless some of them lie before the wrap to zero and the next one behind it.
-/

namespace WindowedLsb

/-- The number of the second packet is the one after that of the first. -/
def Packet.Precedes (p q : Packet) : Prop := q.sn = p.sn + .ofNat _ 1

instance : DecidableRel Packet.Precedes := fun p q =>
  inferInstanceAs (Decidable (q.sn = p.sn + .ofNat _ 1))

namespace FieldWindows

variable {memory : Memory} {w : FieldWindows} {width : UInt64} {actions : List Action} {held : List Packet}
  {p q next : Packet} {k : UInt8} {d i n : Nat}

/-! ## The numbers before the next one -/

/-- Packets in sequence are as far from the next one as they are from the end. -/
theorem distance_to_next (h : (held ++ [next]).IsChain Packet.Precedes) (hi : i < held.length) :
    (held[i].sn.toNat + (held.length - i)) % 2 ^ 16 = next.sn.toNat := by
  have hchain : (held.map Packet.sn ++ [next.sn]).IsChain Counter.Reading.Precedes := by
    rw [← List.map_singleton, ← List.map_append]
    exact (List.isChain_map _).mpr h
  have hlen : i + (held.length - i) = (held.map Packet.sn).length := by
    rw [List.length_map]
    omega
  have hadd := Counter.Reading.toNat_getElem_add hchain (i := i) (d := held.length - i)
    (by rw [hlen, List.length_append]; exact Nat.lt_succ_self _)
  rw [List.getElem_concat_length hlen, List.getElem_append_left (by simpa using hi),
    List.getElem_map] at hadd
  exact hadd.symm

/-! ## Coverage -/

/-- How far behind a value the references may be that read it from `k` bits. -/
def reachBack (k : UInt8) : Int := 2 ^ k.toNat - 1 - Shift.rtpSequenceNumber.offset k

theorem offset_range_of_lt (hk : k < 16) :
    0 ≤ Shift.rtpSequenceNumber.offset k ∧ Shift.rtpSequenceNumber.offset k < 1024 := by
  have hn : k.toNat < 16 := UInt8.lt_iff_toNat_lt.mp hk
  have hle : (twoPow (k.toNat - 5) : Int) ≤ 2 ^ 10 := by
    exact_mod_cast Nat.pow_le_pow_right (by decide) (by omega)
  have hpos : (0 : Int) < twoPow (k.toNat - 5) := by exact_mod_cast Nat.two_pow_pos _
  simp only [Shift.offset]
  split <;> omega

/-- Below the full width a reference some steps back covers the next number if there is no wrap between
them and it is within reach. Behind a wrap it is out of every interval, which reach up by less than half
of all numbers and down by less than that. -/
theorem covers_next_iff (hk : k < 16) (hd : (q.sn.toNat + d) % 2 ^ 16 = next.sn.toNat)
    (hpos : 0 < d) (hle : d ≤ 31744) :
    (standardInterval q.sn.toWord k .rtpSequenceNumber).covers q.sn.toWord next.sn.toWord = true ↔
      q.sn.toNat ≤ next.sn.toNat ∧ (d : Int) ≤ reachBack k := by
  have hword : k ≤ wordBits := UInt8.le_of_lt (UInt8.lt_trans hk (by decide))
  have hq : q.sn.toNat < 2 ^ 16 := q.sn.toNat_lt
  obtain ⟨hlo, hhi⟩ := offset_range_of_lt hk
  rw [covers_standardInterval_iff hword, Counter.Reading.toNat_toWord, Counter.Reading.toNat_toWord,
    reachBack]
  generalize (2 : Int) ^ k.toNat = size
  constructor
  · rintro ⟨h1, h2⟩
    omega
  · rintro ⟨h1, h2⟩
    omega

theorem covers_all_iff (h : (held ++ [next]).IsChain Packet.Precedes) (hne : held ≠ [])
    (hle : held.length ≤ 31744) (hk : k < 16) :
    (∀ q ∈ held, (standardInterval q.sn.toWord k .rtpSequenceNumber).covers q.sn.toWord
      next.sn.toWord = true) ↔
      (∀ q ∈ held, q.sn.toNat ≤ next.sn.toNat) ∧ (held.length : Int) ≤ reachBack k := by
  have hcover : ∀ (i : Nat) (hi : i < held.length),
      (standardInterval held[i].sn.toWord k .rtpSequenceNumber).covers held[i].sn.toWord
        next.sn.toWord = true ↔
      held[i].sn.toNat ≤ next.sn.toNat ∧ ((held.length - i : Nat) : Int) ≤ reachBack k :=
    fun i hi => covers_next_iff hk (distance_to_next h hi) (by omega) (by omega)
  constructor
  · intro hall
    refine ⟨fun q hq => ?_, ?_⟩
    · obtain ⟨i, hi, rfl⟩ := List.mem_iff_getElem.mp hq
      exact ((hcover i hi).mp (hall _ hq)).1
    · have hpos := List.length_pos_iff.mpr hne
      exact ((hcover 0 hpos).mp (hall _ (List.getElem_mem hpos))).2
  · rintro ⟨hbelow, hreach⟩ q hq
    obtain ⟨i, hi, rfl⟩ := List.mem_iff_getElem.mp hq
    exact (hcover i hi).mpr ⟨hbelow _ hq, by omega⟩

/-! ## The width -/

/-- A window of no more than 31744 references never needs the full width for want of reach. -/
theorem isLeast_of_isFirstWidth (h : IsFirstWidth 16 (fun k => (n : Int) ≤ reachBack k) k)
    (hn : n ≤ 31744) : IsLeast {j | (n : Int) ≤ reachBack j} k := by
  have h15 : reachBack 15 = 31744 := by decide
  have hlt : k < 16 := by
    refine UInt8.lt_of_le_of_ne h.le fun he => ?_
    apply h.not_enough 15 (he ▸ by decide)
    omega
  refine ⟨h.enough_of_lt hlt, fun j hj => ?_⟩
  exact UInt8.not_lt.mp fun hjk => h.not_enough j hjk hj

/-- What the next packet number costs, given the references that the window of numbers holds. -/
structure SteadyCost (ring : Ring) (next : SequenceNumber) (k : UInt8) : Prop where
  /-- Without a reference, or with one before the wrap to zero, all bits are sent. -/
  full : ring.size = 0 ∨ (∃ s ∈ ring.held, next.toWord < s.value) → k = 16
  least : ring.size ≠ 0 → (∀ s ∈ ring.held, s.value ≤ next.toWord) →
    IsLeast {j | (ring.size : Int) ≤ reachBack j} k

/-- The window of packet numbers with these references. -/
def numberWindow (ring : Ring) : Window := ⟨ring, 16, .rtpSequenceNumber, standardInterval⟩

section Cost

variable {ring : Ring} (hreach : (numberWindow ring).Reachable)
  (hheld : ring.held = held.map fun p => ⟨p.sn.toWord, p.sn.toWord, true⟩)
  (hchain : (held ++ [next]).IsChain Packet.Precedes) (hle : held.length ≤ 31744)

include hheld

theorem forall_held_iff (P : UInt32 → Prop) :
    (∀ s ∈ ring.held, P s.value) ↔ ∀ p ∈ held, P p.sn.toWord := by
  rw [hheld, List.forall_mem_map]

include hreach hchain hle

theorem isFirstWidth_numberWindow (hne : held ≠ []) :
    IsFirstWidth 16
      (fun k => (∀ q ∈ held, q.sn.toNat ≤ next.sn.toNat) ∧ (held.length : Int) ≤ reachBack k)
      ((numberWindow ring).requiredBits next.sn.toWord) := by
  have huniform := IntervalFunction.standardInterval_equivariant .rtpSequenceNumber
  have hne' : ring.held ≠ [] := by simpa [hheld] using hne
  refine (hreach.width?_eq_ok (fun k _ => huniform k) hne' next.sn.toWord).2.congr fun k hk => ?_
  rw [← covers_all_iff hchain hne hle hk]
  exact forall_held_iff hheld (fun v => (standardInterval v k .rtpSequenceNumber).covers v _ = true)

theorem steadyCost_numberWindow :
    SteadyCost ring next.sn ((numberWindow ring).requiredBits next.sn.toWord) := by
  have hsize : ring.size = held.length := by
    rw [← List.length_map, ← hheld]
    exact hreach.holds.size_eq
  have hbelow : (∀ s ∈ ring.held, s.value ≤ next.sn.toWord) ↔
      ∀ q ∈ held, q.sn.toNat ≤ next.sn.toNat := by
    rw [forall_held_iff hheld (· ≤ next.sn.toWord)]
    simp only [UInt32.le_iff_toNat_le, Counter.Reading.toNat_toWord]
  by_cases hne : held = []
  · have hnone : (numberWindow ring).ring.bounds? = none := by
      rw [hreach.bounds?_eq_none_iff]
      exact hheld.trans (by rw [hne, List.map_nil])
    refine ⟨fun _ => by rw [Window.requiredBits, hnone]; rfl, fun hpos => ?_⟩
    exact absurd (by rw [hsize, hne, List.length_nil]) hpos
  · have hfirst := isFirstWidth_numberWindow hreach hheld hchain hle hne
    constructor
    · -- A reference above the next number is out of reach at every width below the full one.
      rintro (h0 | ⟨s, hs, hlt⟩)
      · exact absurd (List.length_eq_zero_iff.mp (hsize ▸ h0)) hne
      · refine (UInt8.le_iff_lt_or_eq.mp hfirst.le).resolve_left fun hk => ?_
        have hle := hbelow.mpr (hfirst.enough_of_lt hk).1 s hs
        exact UInt32.not_le.mpr hlt hle
    · intro _ hall
      rw [hsize]
      have hq := hbelow.mp hall
      exact isLeast_of_isFirstWidth (hfirst.congr fun k _ => and_iff_right hq) hle

end Cost

theorem sn_run_eq (hw : create memory width = .ok w) (actions : List Action) :
    (w.run actions).sn = numberWindow (w.run actions).sn.ring := by
  obtain ⟨-, -, -, he⟩ := Window.create_eq_ok_iff.mp (window_of_ofConfigs hw .sequenceNumber)
  have hrun := window_run w actions .sequenceNumber
  rw [he, Window.run_eq] at hrun
  change (w.run actions).sn = _ at hrun
  rw [hrun]
  rfl

theorem steadyCost_run (hw : create memory width = .ok w) (hle : width.toNat ≤ 31744)
    (h : (recorded actions ++ [next]).IsChain Packet.Precedes) :
    SteadyCost (w.run actions).sn.ring next.sn ((w.run actions).requiredBits next).sn := by
  have hreach : (w.run actions).sn.Reachable := reachable_window_run hw actions .sequenceNumber
  have hcap : w.sn.ring.capacity = width.toNat := capacity_window hw .sequenceNumber
  have hheld := held_window_run hw actions .sequenceNumber
  have hchain : (kept w.sn.ring.capacity actions ++ [next]).IsChain Packet.Precedes := by
    obtain ⟨front, hf⟩ := kept_suffix w.sn.ring.capacity actions
    exact h.suffix ⟨front, by rw [← List.append_assoc, hf]⟩
  have hfit := (length_kept_le w.sn.ring.capacity actions).trans (hcap ▸ hle)
  rw [sn_run_eq hw actions] at hreach
  have hcost := steadyCost_numberWindow hreach hheld hchain hfit
  rw [← sn_run_eq hw actions] at hcost
  exact hcost

/-- Four bits reach back 14 numbers. -/
theorem SteadyCost.le_four {ring : Ring} {next : SequenceNumber} (h : SteadyCost ring next k)
    (hne : ring.size ≠ 0) (hbelow : ∀ s ∈ ring.held, s.value ≤ next.toWord)
    (hsize : ring.size ≤ 14) : k ≤ 4 := by
  have h4 : reachBack 4 = 14 := by decide
  apply (h.least hne hbelow).2
  rw [Set.mem_ofPred_eq, h4]
  exact_mod_cast hsize

/-- Contexts are made whenever memory grants the slots of one window. As long as packets are numbered in
sequence, whatever else is in them and whatever is acknowledged or cleared in between, the next packet
number costs all 16 bits if the window holds no reference or one from before the wrap to zero, and else as
many as reach back over the references held. -/
theorem requiredBits_of_steady_stream (memory : Memory) (h1 : 1 ≤ width) (hle : width ≤ 31744) :
    ((∃ w, create memory width = .ok w) ↔ memory.grants (width.toNat * Slot.bytes)) ∧
    ∀ w, create memory width = .ok w → ∀ actions next,
      (recorded actions ++ [next]).IsChain Packet.Precedes →
        SteadyCost (w.run actions).sn.ring next.sn ((w.run actions).requiredBits next).sn ∧
        (width ≤ 14 → (w.run actions).sn.ring.size ≠ 0 →
          (∀ s ∈ (w.run actions).sn.ring.held, s.value ≤ next.sn.toWord) →
            ((w.run actions).requiredBits next).sn ≤ 4) := by
  have hpos : 1 ≤ width.toNat := UInt64.le_iff_toNat_le.mp h1
  have hmax : width.toNat ≤ 31744 := UInt64.le_iff_toNat_le.mp hle
  refine ⟨exists_create_iff (by omega), fun w hw actions next h => ?_⟩
  have hcost := steadyCost_run hw hmax h
  refine ⟨hcost, fun h14 hne hbelow => hcost.le_four hne hbelow ?_⟩
  have hcap : w.sn.ring.capacity = width.toNat := capacity_window hw .sequenceNumber
  calc (w.run actions).sn.ring.size
      = (kept w.sn.ring.capacity actions).length := size_window_run hw actions .sequenceNumber
    _ ≤ w.sn.ring.capacity := length_kept_le _ _
    _ = width.toNat := hcap
    _ ≤ 14 := UInt64.le_iff_toNat_le.mp h14

/-- Number 0 needs all bits after 65534 and 65535. Once these are acknowledged, number 1 needs few. -/
theorem requiredBits_of_steady_stream_across_wrap :
    ∃ (w : FieldWindows) (early late : List Action) (p q : Packet), create .ample 4 = .ok w ∧
      (w.run early).sn.ring.numbers = [65534, 65535] ∧ p.sn.toWord = 0 ∧
      ((w.run early).requiredBits p).sn = 16 ∧
      late = early ++ [.record p, .acknowledge (.ofNat _ 65535)] ∧ q.sn.toWord = 1 ∧
      SteadyCost (w.run late).sn.ring q.sn ((w.run late).requiredBits q).sn ∧
      ((w.run late).requiredBits q).sn ≤ 4 := by
  obtain ⟨hmade, hrun⟩ := @requiredBits_of_steady_stream 4 .ample (by decide) (by decide)
  obtain ⟨w, hw⟩ := hmade.mpr (by decide)
  have h := hrun w hw
  have hw' := hw
  obtain rfl := Except.ok.inj hw'
  let early : List Action := [.record ⟨.ofNat _ 65534, .ofNat _ 0, .ofNat _ 7⟩,
    .record ⟨.ofNat _ 65535, .ofNat _ 160, .ofNat _ 8⟩]
  let p : Packet := ⟨.ofNat _ 0, .ofNat _ 320, .ofNat _ 9⟩
  let q : Packet := ⟨.ofNat _ 1, .ofNat _ 480, .ofNat _ 10⟩
  have hfull := (h early p (by decide)).1.full (.inr ⟨⟨65535, 65535, true⟩, by decide, by decide⟩)
  obtain ⟨hcost, hfew⟩ := h (early ++ [.record p, .acknowledge (.ofNat _ 65535)]) q (by decide)
  have hsmall := hfew (by decide) (by decide) (by decide)
  exact ⟨_, early, _, p, q, hw, by decide, rfl, hfull, rfl, rfl, hcost, hsmall⟩

end FieldWindows
end WindowedLsb
