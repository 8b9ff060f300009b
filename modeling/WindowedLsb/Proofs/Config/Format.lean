import WindowedLsb.Proofs.Config.Json
import WindowedLsb.Proofs.Json.Shape

/-!
Which texts are read as window parameters: the objects in which each parameter is the value of one
member, and nothing else counts, and the lists of the three values.
-/

namespace WindowedLsb

open Json Json.Written Json.Variant

/-! ## Numbers -/

theorem decodeWord_eq_ok_iff {type : String} {bits n : Nat} {v : Written} (hbits : bits ≤ 64) :
    decodeWord type bits v.document = .ok n ↔ v = .int n ∧ n < twoPow bits := by
  have hbound : twoPow bits ≤ twoPow 64 := Nat.pow_le_pow_right (by decide) hbits
  have hmax : Numeral.maxWord = twoPow 64 - 1 := rfl
  constructor
  · intro h
    obtain ⟨i, hi, hword⟩ := bind_ok_iff.mp h
    obtain ⟨rfl, hleast, hgreatest⟩ := (decodeInt_eq_ok_iff (by omega) (by omega)).mp hi
    have hn : i.toNat = n := Except.ok.inj hword
    exact ⟨congrArg Written.int (by omega), by omega⟩
  · rintro ⟨rfl, hn⟩
    exact decodeWord_int hn hbits

namespace Config

theorem decodeMaxBits_eq_ok_iff {v : Written} {a : UInt8} :
    decodeMaxBits v.document = .ok a ↔ v = .int a.toNat := by
  constructor
  · intro h
    obtain ⟨n, hn, ha⟩ := bind_ok_iff.mp h
    obtain ⟨rfl, hlt⟩ := (decodeWord_eq_ok_iff (by decide)).mp hn
    rw [← Except.ok.inj ha, UInt8.toNat_ofNat_of_lt' hlt]
  · rintro rfl
    exact decodeMaxBits_int a

theorem decodeWidth_eq_ok_iff {v : Written} {a : UInt64} :
    decodeWidth v.document = .ok a ↔ v = .int a.toNat := by
  constructor
  · intro h
    obtain ⟨n, hn, ha⟩ := bind_ok_iff.mp h
    obtain ⟨rfl, hlt⟩ := (decodeWord_eq_ok_iff (by decide)).mp hn
    rw [← Except.ok.inj ha, UInt64.toNat_ofNat_of_lt' hlt]
  · rintro rfl
    exact decodeWidth_int a

end Config

/-! ## Shifts -/

namespace Shift

/-- The name of a shift that has no number. -/
def name? : Shift → Option String
  | fixed _ => none
  | rtpSequenceNumber => some "RtpSequenceNumber"
  | rtpTimestamp => some "RtpTimestamp"

/-- A value is one of the ways to write a shift: its name, an object with the name for its only key
and nothing for its value, or an object that has a number. -/
inductive IsWritten : Shift → Written → Prop where
  | name {s name gs} : name? s = some name → gs.reading = .ok name → IsWritten s (.string gs)
  | named {s name gap key value} : name? s = some name → key.inner.reading = .ok name →
      value.inner = .null → IsWritten s (.object gap [(key, value)])
  | fixed {p gap key value} : key.inner.reading = .ok "Fixed" →
      value.inner = .int (Int32.toInt p) → IsWritten (.fixed p) (.object gap [(key, value)])

/-- The content of the only alternative that has one. -/
def decodeFixed : Decoder Shift := fun d => do
  return .fixed (Int32.ofInt (← decodeInt "i32" (-twoPow 31) (twoPow 31 - 1) d))

theorem decodeFixed_eq_ok_iff {v : Written} {s : Shift} :
    decodeFixed v.document = .ok s ↔ ∃ p : Int32, v = .int p.toInt ∧ s = .fixed p := by
  constructor
  · intro h
    obtain ⟨i, hi, hs⟩ := bind_ok_iff.mp h
    obtain ⟨rfl, hleast, hgreatest⟩ := (decodeInt_eq_ok_iff (by decide) (by decide)).mp hi
    refine ⟨Int32.ofInt i, ?_, (Except.ok.inj hs).symm⟩
    rw [Int32.toInt_ofInt_of_le hleast (Int.lt_of_le_sub_one hgreatest)]
  · rintro ⟨p, rfl, rfl⟩
    refine bind_ok_iff.mpr ⟨p.toInt, ?_, ?_⟩
    · exact decodeInt_ofInt ⟨p.le_toInt, Int.le_sub_one_of_lt p.toInt_lt⟩ (by decide) (by decide)
    · rw [Int32.ofInt_toInt]
      rfl

theorem lookup_variants_fixed : variants.lookup "Fixed" = some (.content decodeFixed) := rfl

theorem lookup_variants_name {s : Shift} {name : String} (h : s.name? = some name) :
    variants.lookup name = some (.plain s) := by
  cases s with
  | fixed p => cases h
  | rtpSequenceNumber =>
      cases h
      rfl
  | rtpTimestamp =>
      cases h
      rfl

theorem lookup_variants_cases {name : String} {variant : Variant Shift}
    (h : variants.lookup name = some variant) :
    (name = "Fixed" ∧ variant = .content decodeFixed) ∨
      ∃ s : Shift, s.name? = some name ∧ variant = .plain s := by
  obtain ⟨before, after, hvariants, -⟩ := List.lookup_eq_some_iff.mp h
  have hmem : (name, variant) ∈ variants :=
    hvariants ▸ List.mem_append_right before List.mem_cons_self
  cases hmem with
  | head => exact .inl ⟨rfl, rfl⟩
  | tail _ hmem =>
      cases hmem with
      | head => exact .inr ⟨.rtpSequenceNumber, rfl, rfl⟩
      | tail _ hmem =>
          cases hmem with
          | head => exact .inr ⟨.rtpTimestamp, rfl, rfl⟩
          | tail _ hmem => cases hmem

theorem decode_eq_ok_iff {v : Written} {s : Shift} :
    decode v.document = .ok s ↔ s.IsWritten v := by
  rw [decode, decodeVariant_eq_ok_iff]
  constructor
  · rintro (⟨gs, name, rfl, hname, hvariant⟩ |
      ⟨gap, key, value, name, variant, rfl, hname, hvariant, hvalue⟩)
    · obtain ⟨-, h⟩ | ⟨s', hs, h⟩ := lookup_variants_cases hvariant
      · cases h
      · cases h
        exact .name hs hname
    · obtain ⟨rfl, rfl⟩ | ⟨s', hs, rfl⟩ := lookup_variants_cases hvariant
      · obtain ⟨p, hp, rfl⟩ := decodeFixed_eq_ok_iff.mp hvalue
        exact .fixed hname hp
      · obtain ⟨hnull, rfl⟩ := applied_plain_eq_ok_iff.mp hvalue
        exact .named hs hname hnull
  · intro h
    cases h with
    | name hs hname => exact .inl ⟨_, _, rfl, hname, lookup_variants_name hs⟩
    | named hs hname hvalue =>
        refine .inr ⟨_, _, _, _, _, rfl, hname, lookup_variants_name hs, ?_⟩
        exact applied_plain_eq_ok_iff.mpr ⟨hvalue, rfl⟩
    | fixed hname hvalue =>
        refine .inr ⟨_, _, _, _, _, rfl, hname, lookup_variants_fixed, ?_⟩
        exact decodeFixed_eq_ok_iff.mpr ⟨_, hvalue, rfl⟩

end Shift

/-! ## Members -/

namespace Config

/-- What is met of a parameter before and after the values of its name are taken in. -/
inductive Fills {α : Type} (decode : Decoder α) : Option α → List Written → Option α → Prop where
  | nil {met} : Fills decode met [] met
  | cons {v vs a met} : decode v.document = .ok a → Fills decode (some a) vs met →
      Fills decode none (v :: vs) met

section Fills

variable {α : Type} {decode : Decoder α} {met met' : Option α} {v : Written} {vs ws : List Written}

theorem fills_nil_iff : Fills decode met [] met' ↔ met = met' := by
  constructor
  · rintro ⟨⟩
    rfl
  · rintro rfl
    exact .nil

theorem fills_singleton_iff :
    Fills decode met [v] met' ↔ met = none ∧ ∃ a, decode v.document = .ok a ∧ some a = met' := by
  constructor
  · rintro ⟨⟩
    rename_i a ha h
    exact ⟨rfl, a, ha, fills_nil_iff.mp h⟩
  · rintro ⟨rfl, a, ha, rfl⟩
    exact .cons ha .nil

theorem fills_append_iff : Fills decode met (vs ++ ws) met' ↔
    ∃ between, Fills decode met vs between ∧ Fills decode between ws met' := by
  constructor
  · intro h
    induction vs generalizing met with
    | nil => exact ⟨met, .nil, h⟩
    | cons v vs ih =>
        cases h with
        | cons ha h =>
            obtain ⟨between, hvs, hws⟩ := ih h
            exact ⟨between, .cons ha hvs, hws⟩
  · rintro ⟨between, hvs, hws⟩
    induction hvs with
    | nil => exact hws
    | cons ha _ ih => exact .cons ha (ih hws)

theorem fills_member_iff {m : Padded Glyphs × Padded Written} {name other : String}
    (h : m.1.inner.reading = .ok other) : Fills decode met (valuesNamed name [m]) met' ↔
      if other = name then
        met = none ∧ ∃ a, decode m.2.inner.document = .ok a ∧ some a = met'
      else met = met' := by
  split
  · rename_i hname
    rw [valuesNamed_singleton_of_eq (hname ▸ h), fills_singleton_iff]
  · rename_i hname
    rw [valuesNamed_singleton_of_ne h hname, fills_nil_iff]

/-- A parameter is met by one value, and no value may follow it. -/
theorem fills_none_some_iff {a : α} :
    Fills decode none vs (some a) ↔ ∃ d, vs.map document = [d] ∧ decode d = .ok a := by
  constructor
  · rintro ⟨⟩
    rename_i v vs b hb h
    cases h with
    | nil => exact ⟨v.document, rfl, hb⟩
  · rintro ⟨d, hvs, ha⟩
    obtain ⟨v, rfl, rfl⟩ := List.map_eq_singleton_iff.mp hvs
    exact .cons ha .nil

end Fills

namespace Draft

variable {p q : Draft} {m : Padded Glyphs × Padded Written}
  {ms : List (Padded Glyphs × Padded Written)}

/-- What is met before and after members are taken in. -/
structure Takes (p : Draft) (ms : List (Padded Glyphs × Padded Written)) (q : Draft) : Prop where
  maxBits : Fills decodeMaxBits p.maxBits (valuesNamed "max_bits" ms) q.maxBits
  width : Fills decodeWidth p.width (valuesNamed "window_width" ms) q.width
  shift : Fills Shift.decode p.shift (valuesNamed "shift" ms) q.shift

theorem takes_iff : p.Takes ms q ↔
    Fills decodeMaxBits p.maxBits (valuesNamed "max_bits" ms) q.maxBits ∧
      Fills decodeWidth p.width (valuesNamed "window_width" ms) q.width ∧
      Fills Shift.decode p.shift (valuesNamed "shift" ms) q.shift :=
  ⟨fun h => ⟨h.maxBits, h.width, h.shift⟩, fun ⟨hmaxBits, hwidth, hshift⟩ => ⟨hmaxBits, hwidth, hshift⟩⟩

theorem takes_nil_iff : p.Takes [] q ↔ p = q := by
  constructor
  · rintro ⟨hmaxBits, hwidth, hshift⟩
    cases p
    cases q
    rw [mk.injEq]
    exact ⟨fills_nil_iff.mp hmaxBits, fills_nil_iff.mp hwidth, fills_nil_iff.mp hshift⟩
  · rintro rfl
    exact ⟨.nil, .nil, .nil⟩

theorem takes_cons_iff : p.Takes (m :: ms) q ↔ ∃ between, p.Takes [m] between ∧ between.Takes ms q := by
  constructor
  · rintro ⟨hmaxBits, hwidth, hshift⟩
    rw [valuesNamed_cons, fills_append_iff] at hmaxBits hwidth hshift
    obtain ⟨maxBits, hmaxBits, hmaxBits'⟩ := hmaxBits
    obtain ⟨width, hwidth, hwidth'⟩ := hwidth
    obtain ⟨shift, hshift, hshift'⟩ := hshift
    exact ⟨⟨maxBits, width, shift⟩, ⟨hmaxBits, hwidth, hshift⟩, ⟨hmaxBits', hwidth', hshift'⟩⟩
  · rintro ⟨between, h, h'⟩
    refine ⟨?_, ?_, ?_⟩ <;> rw [valuesNamed_cons, fills_append_iff]
    · exact ⟨_, h.maxBits, h'.maxBits⟩
    · exact ⟨_, h.width, h'.width⟩
    · exact ⟨_, h.shift, h'.shift⟩

theorem fresh_bind_eq_ok_iff {α : Type} {met : Option α} {name : String} {x : Except Problem α}
    {f : α → Draft} : (fresh met name >>= fun _ => x >>= fun a => pure (f a)) = .ok q ↔
      met = none ∧ ∃ a, x = .ok a ∧ f a = q := by
  cases met with
  | some b => exact ⟨nofun, nofun⟩
  | none =>
      have hfresh : fresh (none : Option α) name = .ok () := rfl
      rw [hfresh, ok_bind, bind_ok_iff]
      simp only [pure, Except.pure, Except.ok.injEq, true_and]

theorem add_maxBits_eq_ok_iff {d : Document} : p.add "max_bits" d = .ok q ↔
    (p.maxBits = none ∧ ∃ a, decodeMaxBits d = .ok a ∧ some a = q.maxBits) ∧
      p.width = q.width ∧ p.shift = q.shift := by
  refine fresh_bind_eq_ok_iff.trans ⟨?_, ?_⟩
  · rintro ⟨hp, a, ha, rfl⟩
    exact ⟨⟨hp, a, ha, rfl⟩, rfl, rfl⟩
  · rintro ⟨⟨hp, a, ha, hmaxBits⟩, hwidth, hshift⟩
    exact ⟨hp, a, ha, by rw [hmaxBits, hwidth, hshift]⟩

theorem add_width_eq_ok_iff {d : Document} : p.add "window_width" d = .ok q ↔
    p.maxBits = q.maxBits ∧
      (p.width = none ∧ ∃ a, decodeWidth d = .ok a ∧ some a = q.width) ∧ p.shift = q.shift := by
  refine fresh_bind_eq_ok_iff.trans ⟨?_, ?_⟩
  · rintro ⟨hp, a, ha, rfl⟩
    exact ⟨rfl, ⟨hp, a, ha, rfl⟩, rfl⟩
  · rintro ⟨hmaxBits, ⟨hp, a, ha, hwidth⟩, hshift⟩
    exact ⟨hp, a, ha, by rw [hmaxBits, hwidth, hshift]⟩

theorem add_shift_eq_ok_iff {d : Document} : p.add "shift" d = .ok q ↔
    p.maxBits = q.maxBits ∧ p.width = q.width ∧
      p.shift = none ∧ ∃ a, Shift.decode d = .ok a ∧ some a = q.shift := by
  refine fresh_bind_eq_ok_iff.trans ⟨?_, ?_⟩
  · rintro ⟨hp, a, ha, rfl⟩
    exact ⟨rfl, rfl, hp, a, ha, rfl⟩
  · rintro ⟨hmaxBits, hwidth, hp, a, ha, hshift⟩
    exact ⟨hp, a, ha, by rw [hmaxBits, hwidth, hshift]⟩

/-- The value of an unknown member is never looked at. -/
theorem add_unknown_eq_ok_iff {name : String} {v : Written} (hmaxBits : name ≠ "max_bits")
    (hwidth : name ≠ "window_width") (hshift : name ≠ "shift") :
    p.add name v.document = .ok q ↔
      p.maxBits = q.maxBits ∧ p.width = q.width ∧ p.shift = q.shift := by
  have hadd : p.add name v.document = .ok p := by
    rw [add, pass_document, ok_bind]
    · rfl
    · exact hmaxBits
    · exact hwidth
    · exact hshift
  rw [hadd, Except.ok.injEq]
  cases p
  cases q
  exact Iff.of_eq (mk.injEq ..)

/-- A step takes in one member, whatever its name is. -/
theorem add_eq_ok_iff {name : String} (h : m.1.inner.reading = .ok name) :
    p.add name m.2.inner.document = .ok q ↔ p.Takes [m] q := by
  rw [takes_iff, fills_member_iff h, fills_member_iff h, fills_member_iff h]
  by_cases hmaxBits : name = "max_bits"
  · subst hmaxBits
    exact add_maxBits_eq_ok_iff
  by_cases hwidth : name = "window_width"
  · subst hwidth
    exact add_width_eq_ok_iff
  by_cases hshift : name = "shift"
  · subst hshift
    exact add_shift_eq_ok_iff
  · rw [if_neg hmaxBits, if_neg hwidth, if_neg hshift]
    exact add_unknown_eq_ok_iff hmaxBits hwidth hshift

/-- The whole run takes in all members, if all names can be read. -/
theorem addAll_eq_ok_iff : p.addAll (documentsOfMembers ms) = .ok q ↔
    (∀ m ∈ ms, m.1.inner.IsWhole) ∧ p.Takes ms q := by
  induction ms generalizing p with
  | nil =>
      rw [takes_nil_iff]
      exact ⟨fun h => ⟨nofun, Except.ok.inj h⟩, fun ⟨_, h⟩ => congrArg Except.ok h⟩
  | cons m ms ih =>
      have hcons : documentsOfMembers (m :: ms) =
          (.string m.1.inner.reading none, m.2.inner.document) :: documentsOfMembers ms := rfl
      rw [List.forall_mem_cons, takes_cons_iff, hcons]
      cases h : m.1.inner.reading with
      | error f =>
          refine ⟨nofun, fun ⟨⟨⟨name, hname⟩, _⟩, _⟩ => ?_⟩
          rw [h] at hname
          cases hname
      | ok name =>
          rw [addAll_string, bind_ok_iff]
          constructor
          · rintro ⟨between, hadd, hrest⟩
            obtain ⟨hwhole, hrest⟩ := ih.mp hrest
            exact ⟨⟨⟨name, h⟩, hwhole⟩, between, (add_eq_ok_iff h).mp hadd, hrest⟩
          · rintro ⟨⟨-, hwhole⟩, between, hadd, hrest⟩
            exact ⟨between, (add_eq_ok_iff h).mpr hadd, ih.mpr ⟨hwhole, hrest⟩⟩

theorem finish_eq_ok_iff {c : Config} :
    p.finish = .ok c ↔ p = ⟨some c.maxBits, some c.width, some c.shift⟩ := by
  obtain ⟨maxBits, width, shift⟩ := p
  cases maxBits with
  | none => exact ⟨nofun, nofun⟩
  | some a =>
      cases width with
      | none => exact ⟨nofun, nofun⟩
      | some b =>
          cases shift with
          | none => exact ⟨nofun, nofun⟩
          | some s =>
              constructor
              · rintro ⟨⟩
                rfl
              · rintro ⟨⟩
                rfl

end Draft

/-! ## Objects and lists -/

variable {c : Config} {gap : Blanks} {ms : List (Padded Glyphs × Padded Written)}

/-- What the three parameters are read from. -/
structure IsReadFrom (c : Config) (maxBits width shift : Document) : Prop where
  maxBits : decodeMaxBits maxBits = .ok c.maxBits
  width : decodeWidth width = .ok c.width
  shift : Shift.decode shift = .ok c.shift

/-- The members of an object have one value for each parameter. -/
structure IsGivenBy (c : Config) (ms : List (Padded Glyphs × Padded Written)) : Prop where
  maxBits : valuesNamed "max_bits" ms = [.int c.maxBits.toNat]
  width : valuesNamed "window_width" ms = [.int c.width.toNat]
  shift : ∃ v, valuesNamed "shift" ms = [v] ∧ c.shift.IsWritten v

theorem isGivenBy_iff : c.IsGivenBy ms ↔
    ∃ a b s, (valuesNamed "max_bits" ms).map document = [a] ∧
      (valuesNamed "window_width" ms).map document = [b] ∧
      (valuesNamed "shift" ms).map document = [s] ∧ c.IsReadFrom a b s := by
  constructor
  · rintro ⟨hmaxBits, hwidth, v, hshift, hv⟩
    rw [hmaxBits, hwidth, hshift]
    exact ⟨_, _, _, rfl, rfl, rfl, decodeMaxBits_eq_ok_iff.mpr rfl, decodeWidth_eq_ok_iff.mpr rfl,
      Shift.decode_eq_ok_iff.mpr hv⟩
  · rintro ⟨_, _, _, hmaxBits, hwidth, hshift, h⟩
    obtain ⟨a, ha, rfl⟩ := List.map_eq_singleton_iff.mp hmaxBits
    obtain ⟨b, hb, rfl⟩ := List.map_eq_singleton_iff.mp hwidth
    obtain ⟨s, hs, rfl⟩ := List.map_eq_singleton_iff.mp hshift
    refine ⟨?_, ?_, s, hs, Shift.decode_eq_ok_iff.mp h.shift⟩
    · rw [ha, decodeMaxBits_eq_ok_iff.mp h.maxBits]
    · rw [hb, decodeWidth_eq_ok_iff.mp h.width]

theorem takes_all_iff :
    Draft.Takes {} ms ⟨some c.maxBits, some c.width, some c.shift⟩ ↔ c.IsGivenBy ms := by
  rw [Draft.takes_iff, fills_none_some_iff, fills_none_some_iff, fills_none_some_iff, isGivenBy_iff]
  constructor
  · rintro ⟨⟨a, hmaxBits, ha⟩, ⟨b, hwidth, hb⟩, ⟨s, hshift, hs⟩⟩
    exact ⟨a, b, s, hmaxBits, hwidth, hshift, ha, hb, hs⟩
  · rintro ⟨a, b, s, hmaxBits, hwidth, hshift, ha, hb, hs⟩
    exact ⟨⟨a, hmaxBits, ha⟩, ⟨b, hwidth, hb⟩, ⟨s, hshift, hs⟩⟩

theorem decode_object_eq_ok_iff : decode (Written.object gap ms).document = .ok c ↔
    (∀ m ∈ ms, m.1.inner.IsWhole) ∧ c.IsGivenBy ms := by
  have hrun : decode (Written.object gap ms).document =
      Draft.addAll {} (documentsOfMembers ms) >>= Draft.finish := rfl
  rw [hrun, bind_ok_iff, ← takes_all_iff, ← Draft.addAll_eq_ok_iff]
  constructor
  · rintro ⟨p, hp, hfinish⟩
    rwa [Draft.finish_eq_ok_iff.mp hfinish] at hp
  · intro h
    exact ⟨_, h, Draft.finish_eq_ok_iff.mpr rfl⟩

theorem decode_array_eq_ok_iff {a b s : Padded Written} :
    decode (Written.array gap [a, b, s]).document = .ok c ↔
      c.IsReadFrom a.inner.document b.inner.document s.inner.document := by
  have hrun : decode (Written.array gap [a, b, s]).document =
      decodeMaxBits a.inner.document >>= fun maxBits => decodeWidth b.inner.document >>=
        fun width => Shift.decode s.inner.document >>= fun shift => .ok ⟨maxBits, width, shift⟩ := rfl
  rw [hrun]
  constructor
  · intro h
    obtain ⟨maxBits, hmaxBits, h⟩ := bind_ok_iff.mp h
    obtain ⟨width, hwidth, h⟩ := bind_ok_iff.mp h
    obtain ⟨shift, hshift, h⟩ := bind_ok_iff.mp h
    cases h
    exact ⟨hmaxBits, hwidth, hshift⟩
  · rintro ⟨hmaxBits, hwidth, hshift⟩
    rw [hmaxBits, hwidth, hshift]
    rfl

/-- An object whose names can be read, with blanks around it, is read as window parameters exactly if
each of them is the value of one member: two integers in range, and a shift. What else is in it makes
no difference, nor do the order of the members, blanks and escapes. The list of the three values is
read alike. -/
theorem decodeText_object {t : Padded Written} (ht : t.inner = .object gap ms)
    (hwhole : ∀ m ∈ ms, m.1.inner.IsWhole) :
    (∀ c, decodeText decode t.text = .ok c ↔ c.IsGivenBy ms) ∧
    (∀ (t' : Padded Written) (gap' : Blanks) (ms' : List (Padded Glyphs × Padded Written)),
      t'.inner = .object gap' ms' → (∀ m ∈ ms', m.1.inner.IsWhole) →
      (∀ name ∈ ["max_bits", "window_width", "shift"],
        (valuesNamed name ms').map document = (valuesNamed name ms).map document) →
      ∀ c, decodeText decode t'.text = .ok c ↔ decodeText decode t.text = .ok c) ∧
    ∀ (t' : Padded Written) (gap' : Blanks) (a b s : Padded Written),
      t'.inner = .array gap' [a, b, s] →
      (valuesNamed "max_bits" ms).map document = [a.inner.document] →
      (valuesNamed "window_width" ms).map document = [b.inner.document] →
      (valuesNamed "shift" ms).map document = [s.inner.document] →
      ∀ c, decodeText decode t'.text = .ok c ↔ decodeText decode t.text = .ok c := by
  have hread : ∀ c, decodeText decode t.text = .ok c ↔ c.IsGivenBy ms := by
    intro c
    rw [t.decodeText_text, ht, decode_object_eq_ok_iff, isGivenBy_iff]
    exact and_iff_right hwhole
  refine ⟨hread, ?_, ?_⟩
  · intro t' gap' ms' ht' hwhole' hsame c
    rw [hread, t'.decodeText_text, ht', decode_object_eq_ok_iff, isGivenBy_iff, isGivenBy_iff,
      hsame "max_bits" (by simp), hsame "window_width" (by simp), hsame "shift" (by simp)]
    exact and_iff_right hwhole'
  · intro t' gap' a b s ht' hmaxBits hwidth hshift c
    rw [hread, t'.decodeText_text, ht', decode_array_eq_ok_iff, isGivenBy_iff, hmaxBits, hwidth,
      hshift]
    constructor
    · intro h
      exact ⟨_, _, _, rfl, rfl, rfl, h⟩
    · rintro ⟨_, _, _, ⟨⟩, ⟨⟩, ⟨⟩, h⟩
      exact h

/-- A name counts with escapes in it, and does not count inside another value. -/
theorem decodeText_object_escaped_name :
    let c : Config := ⟨8, 4, .rtpTimestamp⟩
    decodeText decode ("\x7b\"x\":[\x7b\"max_bits\":9\x7d],\"\\u0073hift\":" ++
      "\x7b\"RtpTimestamp\":null\x7d,\"window_width\":4,\"max_bits\":8\x7d") = .ok c ∧
    decodeText decode "[8,4,\x7b\"RtpTimestamp\":null\x7d]" = .ok c := by
  intro c
  let pad (v : Written) : Padded Written := ⟨noBlanks, v, noBlanks⟩
  let unknown : Written :=
    .array noBlanks [pad (.object noBlanks [member "max_bits" (by decide) (.int 9)])]
  let shiftName : Glyphs := .unit ⟨'0', 0, rfl⟩ ⟨'0', 0, rfl⟩ ⟨'7', 7, rfl⟩ ⟨'3', 3, rfl⟩ ::
    Glyphs.ofString "hift" (by decide)
  let shift : Written := .object noBlanks [member "RtpTimestamp" (by decide) .null]
  let ms := [member "x" (by decide) unknown, (⟨noBlanks, shiftName, noBlanks⟩, pad shift),
    member "window_width" (by decide) (.int 4), member "max_bits" (by decide) (.int 8)]
  let t := pad (.object noBlanks ms)
  let t' := pad (.array noBlanks [pad (.int 8), pad (.int 4), pad shift])
  have hwhole : ∀ m ∈ ms, m.1.inner.IsWhole := by
    simp only [ms, List.forall_mem_cons]
    exact ⟨⟨"x", rfl⟩, ⟨"shift", rfl⟩, ⟨"window_width", rfl⟩, ⟨"max_bits", rfl⟩,
      List.forall_mem_nil _⟩
  have hgiven : c.IsGivenBy ms := ⟨rfl, rfl, shift, rfl, .named rfl rfl rfl⟩
  obtain ⟨hread, -, hlist⟩ := decodeText_object (t := t) rfl hwhole
  refine ⟨(hread c).mpr hgiven, ?_⟩
  exact (hlist t' _ _ _ _ rfl rfl rfl rfl c).mpr ((hread c).mpr hgiven)

end Config
end WindowedLsb
