import Mathlib.Data.List.Nodup
import Mathlib.Data.Set.Card
import WindowedLsb.Proofs.Coding

/-!
Decoding as a search. The decoder looks at one candidate only; it answers as if it went up through
all members of the interval and stopped at the first that ends in the bits received.
-/

namespace WindowedLsb

variable {i : Interval} {bits v ref : UInt32} {k : UInt8} {shift : Shift} {f : IntervalFunction}

namespace Interval

/-! ## Members in order -/

/-- The members, going up from the start of the interval and past the largest word to zero. -/
def members (i : Interval) : List UInt32 :=
  (List.range (i.reach.toNat + 1)).map fun d => i.lo + UInt32.ofNat d

/-- The first member that has `bits` as its `k` low bits. -/
def search (i : Interval) (bits : UInt32) (k : UInt8) : Option UInt32 :=
  i.members.find? fun v => v.toNat % 2 ^ k.toNat == bits.toNat

theorem length_members (i : Interval) : i.members.length = i.reach.toNat + 1 := by simp [members]

/-- A word is as many steps up from the start as its distance says. -/
theorem lo_add_distance (i : Interval) (v : UInt32) : i.lo + UInt32.ofNat (v - i.lo).toNat = v := by
  rw [UInt32.ofNat_toNat, UInt32.add_comm, UInt32.sub_add_cancel]

theorem distance_lo_add (i : Interval) {d : Nat} (hd : d ≤ i.reach.toNat) :
    (i.lo + UInt32.ofNat d - i.lo).toNat = d := by
  have hr := i.reach.toNat_lt
  rw [UInt32.add_comm, UInt32.add_sub_cancel, UInt32.toNat_ofNat']
  exact Nat.mod_eq_of_lt (by omega)

theorem mem_members : v ∈ i.members ↔ i.contains v = true := by
  rw [contains_iff, members, List.mem_map]
  constructor
  · rintro ⟨d, hd, rfl⟩
    have hle : d ≤ i.reach.toNat := Nat.lt_succ_iff.mp (List.mem_range.mp hd)
    rw [distance_lo_add i hle]
    exact hle
  · intro hv
    exact ⟨(v - i.lo).toNat, List.mem_range.mpr (Nat.lt_succ_iff.mpr hv), lo_add_distance i v⟩

theorem nodup_members (i : Interval) : i.members.Nodup := by
  rw [members, List.nodup_map_iff_inj_on List.nodup_range]
  intro d hd e he hde
  rw [List.mem_range, Nat.lt_succ_iff] at hd he
  rw [← distance_lo_add i hd, hde, distance_lo_add i he]

theorem ncard_contains (i : Interval) : {v | i.contains v = true}.ncard = i.reach.toNat + 1 := by
  have hset : {v | i.contains v = true} = ↑i.members.toFinset := by
    ext v
    simp [mem_members]
  rw [hset, Set.ncard_coe_finset, List.toFinset_card_of_nodup i.nodup_members, length_members]

/-! ## The search -/

theorem search_eq_none_iff : i.search bits k = none ↔
    ∀ v, i.contains v = true → v.toNat % 2 ^ k.toNat ≠ bits.toNat := by
  simp [search, List.find?_eq_none, mem_members]

/-- A word ends in the bits exactly when it is a multiple of `2 ^ k` away from the candidate. -/
theorem mod_eq_iff_distance (hk : k ≤ wordBits) (i : Interval) (hb : bits.toNat < 2 ^ k.toNat) :
    v.toNat % 2 ^ k.toNat = bits.toNat ↔
      (v - i.lo).toNat % 2 ^ k.toNat = (i.candidate bits k - i.lo).toNat := by
  have hmod : v.toNat % 2 ^ k.toNat = bits.toNat ↔ v.toNat ≡ bits.toNat [MOD 2 ^ k.toNat] := by
    rw [Nat.ModEq, Nat.mod_eq_of_lt hb]
  rw [hmod, ← toNat_sub_modEq_sub_iff (toNat_le_of_le_wordBits hk) _ _ i.lo, candidate_sub_lo,
    toNat_and_lowMask hk]
  rfl

/-- Nothing before the candidate ends in the bits, and if the interval ends before it, nothing in the
interval does. -/
theorem search_eq (hk : k ≤ wordBits) (i : Interval) (hb : bits.toNat < 2 ^ k.toNat) :
    i.search bits k =
      if i.contains (i.candidate bits k) then some (i.candidate bits k) else none := by
  have hends : ∀ d ≤ i.reach.toNat, (i.lo + UInt32.ofNat d).toNat % 2 ^ k.toNat = bits.toNat ↔
      d % 2 ^ k.toNat = (i.candidate bits k - i.lo).toNat := fun d hd => by
    rw [mod_eq_iff_distance hk i hb, distance_lo_add i hd]
  split
  · rename_i hc
    rw [contains_iff] at hc
    rw [search, members, List.find?_map, Option.map_eq_some_iff]
    refine ⟨(i.candidate bits k - i.lo).toNat, ?_, lo_add_distance i _⟩
    rw [List.find?_range_eq_some]
    refine ⟨?_, List.mem_range.mpr (Nat.lt_succ_iff.mpr hc), ?_⟩
    · simp only [Function.comp_apply, lo_add_distance, beq_iff_eq]
      rw [candidate_modEq hk, Nat.mod_eq_of_lt hb]
    · intro d hd
      have hne : d % 2 ^ k.toNat ≠ (i.candidate bits k - i.lo).toNat :=
        Nat.ne_of_lt (Nat.lt_of_le_of_lt (Nat.mod_le d _) hd)
      simpa using (hends d (by omega)).not.mpr hne
  · rename_i hc
    rw [contains_iff] at hc
    rw [search, List.find?_eq_none]
    intro v hv hends
    rw [mem_members, contains_iff] at hv
    have hd := (mod_eq_iff_distance hk i hb).mp (beq_iff_eq.mp hends)
    have hle := Nat.mod_le (v - i.lo).toNat (2 ^ k.toNat)
    omega

end Interval

/-! ## Decoding in any interval -/

/-- The patterns of `k` low bits. -/
def patterns (k : UInt8) : Set UInt32 := {bits | bits.toNat < 2 ^ k.toNat}

instance : Decidable (bits ∈ patterns k) := inferInstanceAs (Decidable (bits.toNat < 2 ^ k.toNat))

theorem and_not_lowMask_eq_zero_iff (hk : k ≤ wordBits) :
    bits &&& ~~~lowMask k = 0 ↔ bits ∈ patterns k := by
  have hfit : bits &&& lowMask k = bits ↔ bits.toNat < 2 ^ k.toNat := by
    rw [← UInt32.toNat_inj, toNat_and_lowMask hk, Nat.mod_eq_iff_lt (Nat.two_pow_pos _).ne']
  refine Iff.trans ⟨fun h => ?_, fun h => ?_⟩ hfit
  · have hsplit := and_or_and_not bits (lowMask k)
    rwa [h, UInt32.or_zero] at hsplit
  · rw [← h]
    exact and_lowMask_and_not bits k

theorem decodeWith_of_tooWide (hk : k > wordBits) :
    decodeWith f bits ref k shift = .error (CodingFault.tooWide k).toError := if_pos hk

theorem decodeWith_of_tooLarge (hk : k ≤ wordBits) (hb : bits ∉ patterns k) :
    decodeWith f bits ref k shift = .error (CodingFault.tooLarge bits k).toError := by
  have hmask := (and_not_lowMask_eq_zero_iff hk).not.mpr hb
  rw [decodeWith, if_neg (UInt8.not_lt.mpr hk), if_pos hmask]

theorem decodeWith_eq_search (hk : k ≤ wordBits) (hb : bits ∈ patterns k) :
    decodeWith f bits ref k shift = match (f ref k shift).search bits k with
      | some v => .ok v
      | none => .error (CodingFault.unresolved (f ref k shift) bits ref k shift).toError := by
  rw [decodeWith_eq hk ((and_not_lowMask_eq_zero_iff hk).mpr hb), Interval.search_eq hk _ hb]
  split <;> rfl

/-! ## Decoding in the standard interval -/

theorem candidate_mod (hk : k ≤ wordBits) (hb : bits ∈ patterns k) (i : Interval) :
    (i.candidate bits k).toNat % 2 ^ k.toNat = bits.toNat := by
  rw [Interval.candidate_modEq hk i bits, Nat.mod_eq_of_lt hb]

theorem contains_standard_candidate (hk : k ≤ wordBits) (bits ref : UInt32) (shift : Shift) :
    (standardInterval ref k shift).contains ((standardInterval ref k shift).candidate bits k) = true :=
  Interval.contains_candidate hk
    ((IntervalFunction.standardInterval_regular shift).reach_eq k hk ref) bits

theorem standard_candidate_eq (hk : k ≤ wordBits)
    (hc : (standardInterval ref k shift).contains v = true)
    (hv : v.toNat ≡ bits.toNat [MOD 2 ^ k.toNat]) :
    (standardInterval ref k shift).candidate bits k = v :=
  Interval.candidate_eq_of_contains hk
    ((IntervalFunction.standardInterval_regular shift).reach_eq k hk ref) hc hv

theorem existsUnique_member (hk : k ≤ wordBits) (hb : bits ∈ patterns k) (ref : UInt32)
    (shift : Shift) : ∃! v, (standardInterval ref k shift).contains v = true ∧
      v.toNat % 2 ^ k.toNat = bits.toNat := by
  refine ⟨_, ⟨contains_standard_candidate hk bits ref shift, candidate_mod hk hb _⟩, ?_⟩
  rintro v ⟨hc, hv⟩
  refine (standard_candidate_eq hk hc ?_).symm
  rw [Nat.ModEq, hv, Nat.mod_eq_of_lt hb]

theorem decode_eq_candidate (hk : k ≤ wordBits) (hb : bits ∈ patterns k) (ref : UInt32)
    (shift : Shift) :
    decode bits ref k shift = .ok ((standardInterval ref k shift).candidate bits k) := by
  rw [decode, decodeWith_eq hk ((and_not_lowMask_eq_zero_iff hk).mpr hb),
    if_pos (contains_standard_candidate hk bits ref shift)]

/-- What is decoded is a member of the interval, and encoding it gives the bits back. -/
theorem encode_decode (hk : k ≤ wordBits) (hb : bits ∈ patterns k) (ref : UInt32) (shift : Shift) :
    ∃ v, (standardInterval ref k shift).contains v = true ∧ decode bits ref k shift = .ok v ∧
      encode v k = .ok bits := by
  refine ⟨_, contains_standard_candidate hk bits ref shift, decode_eq_candidate hk hb ref shift, ?_⟩
  rw [encode_eq hk, Except.ok.injEq, ← UInt32.toNat_inj, toNat_and_lowMask hk, candidate_mod hk hb]

/-- Members of the interval survive encoding. -/
theorem decode_encode (hk : k ≤ wordBits) (hc : (standardInterval ref k shift).contains v = true) :
    ∃ bits ∈ patterns k, encode v k = .ok bits ∧ decode bits ref k shift = .ok v := by
  have hb : v &&& lowMask k ∈ patterns k :=
    (and_not_lowMask_eq_zero_iff hk).mp (and_lowMask_and_not v k)
  refine ⟨_, hb, encode_eq hk v, ?_⟩
  rw [decode_eq_candidate hk hb, standard_candidate_eq hk hc (and_lowMask_modEq hk v)]

theorem bijOn_decode (hk : k ≤ wordBits) (ref : UInt32) (shift : Shift) :
    Set.BijOn (fun bits => decode bits ref k shift) (patterns k)
      (Except.ok '' {v | (standardInterval ref k shift).contains v = true}) := by
  refine ⟨?_, ?_, ?_⟩
  · intro bits hb
    obtain ⟨v, hc, hd, -⟩ := encode_decode hk hb ref shift
    exact ⟨v, hc, hd.symm⟩
  · intro bits hb bits' hb' heq
    obtain ⟨v, -, hd, he⟩ := encode_decode hk hb ref shift
    obtain ⟨v', -, hd', he'⟩ := encode_decode hk hb' ref shift
    obtain rfl : v = v' := Except.ok.inj (hd.symm.trans (heq.trans hd'))
    exact Except.ok.inj (he.symm.trans he')
  · rintro _ ⟨v, hc, rfl⟩
    obtain ⟨bits, hb, -, hd⟩ := decode_encode hk hc
    exact ⟨bits, hb, hd⟩

/-- Decoding is the search for the received bits. A width above that of a word and bits too large for
the width are refused, each under the name of its field; otherwise the answer is the first member of
the interval, going up, that ends in the bits, and a fault exactly if no member does. In the standard
interval there is always one such member and no other, so that at each width decoding maps the patterns
of bits one to one onto the members, and encoding maps them back. -/
theorem decodeWith_is_first_match :
    (∀ (f : IntervalFunction) (bits ref : UInt32) (k : UInt8) (shift : Shift),
      (k > wordBits → ∃ text,
        decodeWith f bits ref k shift = .error (.lowBits "num_lsb_bits" text)) ∧
      (k ≤ wordBits → bits ∉ patterns k → ∃ text,
        decodeWith f bits ref k shift = .error (.lowBits "received_lsbs" text)) ∧
      (k ≤ wordBits → bits ∈ patterns k →
        (∀ v, decodeWith f bits ref k shift = .ok v ↔ (f ref k shift).search bits k = some v) ∧
        ((∃ text, decodeWith f bits ref k shift = .error (.lowBits "received_lsbs" text)) ↔
          ∀ v, (f ref k shift).contains v = true → v.toNat % 2 ^ k.toNat ≠ bits.toNat))) ∧
    ∀ (ref : UInt32) (k : UInt8) (shift : Shift), k ≤ wordBits →
      (∀ bits ∈ patterns k, ∃! v, (standardInterval ref k shift).contains v = true ∧
        v.toNat % 2 ^ k.toNat = bits.toNat) ∧
      {v | (standardInterval ref k shift).contains v = true}.ncard = 2 ^ k.toNat ∧
      Set.BijOn (fun bits => decode bits ref k shift) (patterns k)
        (Except.ok '' {v | (standardInterval ref k shift).contains v = true}) ∧
      (∀ bits ∈ patterns k, ∃ v, decode bits ref k shift = .ok v ∧ encode v k = .ok bits) ∧
      ∀ v, (standardInterval ref k shift).contains v = true →
        ∃ bits ∈ patterns k, encode v k = .ok bits ∧ decode bits ref k shift = .ok v := by
  refine ⟨fun f bits ref k shift => ⟨fun hk => ?_, fun hk hb => ?_, fun hk hb => ?_⟩,
    fun ref k shift hk => ⟨?_, ?_, bijOn_decode hk ref shift, ?_, fun v => decode_encode hk⟩⟩
  · exact ⟨_, decodeWith_of_tooWide hk⟩
  · exact ⟨_, decodeWith_of_tooLarge hk hb⟩
  · rw [decodeWith_eq_search hk hb, ← Interval.search_eq_none_iff]
    cases (f ref k shift).search bits k with
    | some v => simp
    | none => simp [CodingFault.toError, CodingFault.field]
  · intro bits hb
    exact existsUnique_member hk hb ref shift
  · have hr := (IntervalFunction.standardInterval_regular shift).reach_eq k hk ref
    rw [Interval.ncard_contains, hr]
    exact Nat.sub_add_cancel (Nat.two_pow_pos _)
  · intro bits hb
    obtain ⟨v, -, h⟩ := encode_decode hk hb ref shift
    exact ⟨v, h⟩

/-- An interval of four words around zero, in which three bits name at most one word and mostly none,
and the standard interval at four bits, across the same wrap. -/
theorem decodeWith_is_first_match_across_wrap :
    decodeWith (tableInterval [(-2, 1)]) 7 0 3 (.fixed 0) = .ok 0xffffffff ∧
    (∃ text, decodeWith (tableInterval [(-2, 1)]) 5 0 3 (.fixed 0) =
      .error (.lowBits "received_lsbs" text)) ∧
    (∃ text, decodeWith (tableInterval [(-2, 1)]) 8 0 3 (.fixed 0) =
      .error (.lowBits "received_lsbs" text)) ∧
    (∃ text, decodeWith (tableInterval [(-2, 1)]) 8 0 33 (.fixed 0) =
      .error (.lowBits "num_lsb_bits" text)) ∧
    Set.BijOn (fun bits => decode bits 3 4 (.fixed 5)) (patterns 4)
      (Except.ok '' {v | (standardInterval 3 4 (.fixed 5)).contains v = true}) := by
  obtain ⟨any, standard⟩ := decodeWith_is_first_match
  have h7 := (any (tableInterval [(-2, 1)]) 7 0 3 (.fixed 0)).2.2 (by decide) (by decide)
  have h5 := (any (tableInterval [(-2, 1)]) 5 0 3 (.fixed 0)).2.2 (by decide) (by decide)
  refine ⟨(h7.1 _).mpr (by decide), h5.2.mpr ?_, ?_, ?_, (standard 3 4 (.fixed 5) (by decide)).2.2.1⟩
  · exact Interval.search_eq_none_iff.mp (by decide)
  · exact (any (tableInterval [(-2, 1)]) 8 0 3 (.fixed 0)).2.1 (by decide) (by decide)
  · exact (any (tableInterval [(-2, 1)]) 8 0 33 (.fixed 0)).1 (by decide)

end WindowedLsb
