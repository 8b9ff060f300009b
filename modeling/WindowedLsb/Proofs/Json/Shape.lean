import Mathlib.Data.List.Induction
import WindowedLsb.Proofs.Json.Compact
import WindowedLsb.Proofs.Json.Scan

/-!
What a decoder makes of a written value: which numbers are integers, which values name an
alternative, and that every value can be passed over.
-/

namespace WindowedLsb.Json

theorem lift_eq_ok_iff {α : Type} {x : Except Fault α} {a : α} : lift x = .ok a ↔ x = .ok a := by
  cases x with
  | error f => exact ⟨nofun, nofun⟩
  | ok b => exact ⟨fun h => congrArg Except.ok (Except.ok.inj h),
      fun h => congrArg Except.ok (Except.ok.inj h)⟩

/-! ## Digits -/

theorem toDigits_digitValue {c : Char} (h : c.isDigit = true) :
    Numeral.digitValue c < 10 ∧ Nat.toDigits 10 (Numeral.digitValue c) = [c] := by
  obtain ⟨hleast, hgreatest⟩ : 48 ≤ c.toNat ∧ c.toNat ≤ 57 := Char.isDigit_iff_toNat.mp h
  have hvalue : Numeral.digitValue c = c.toNat - 48 := rfl
  have hlt : Numeral.digitValue c < 10 := by omega
  refine ⟨hlt, ?_⟩
  have hchar : (Nat.digitChar (Numeral.digitValue c)).toNat = c.toNat := by
    rw [Nat.toNat_digitChar_of_lt_ten hlt]
    omega
  rw [Nat.toDigits_of_lt_base hlt, Char.toNat_inj.mp hchar]

theorem valueOf_concat (ds : List Char) (c : Char) :
    Numeral.valueOf (ds ++ [c]) = 10 * Numeral.valueOf ds + Numeral.digitValue c := by
  rw [Numeral.valueOf, List.foldl_append]
  rfl

/-- There is one way to write a number in digits without a zero in front. -/
theorem toDigits_valueOf (ds : List Char) (hne : ds ≠ []) (hdigit : ∀ c ∈ ds, c.isDigit = true)
    (hzero : ds.head? = some '0' → ds = ['0']) : Nat.toDigits 10 (Numeral.valueOf ds) = ds := by
  induction ds using List.reverseRecOn with
  | nil => exact absurd rfl hne
  | append_singleton ds c ih =>
      obtain ⟨hlt, hlast⟩ := toDigits_digitValue (hdigit c (by simp))
      rcases eq_or_ne ds [] with rfl | hds
      · simpa [Numeral.valueOf] using hlast
      · have hhead : ds.head? ≠ some '0' := by
          intro h
          have hlength := congrArg List.length (hzero (by rw [List.head?_append_of_ne_nil _ hds, h]))
          simp [hds] at hlength
        have hds' : Nat.toDigits 10 (Numeral.valueOf ds) = ds :=
          ih hds (fun d hd => hdigit d (List.mem_append_left _ hd)) fun h => absurd h hhead
        have hpos : 0 < Numeral.valueOf ds := by
          refine Nat.pos_of_ne_zero fun h => hhead ?_
          rw [← hds', h, Nat.toDigits_zero]
          rfl
        rw [valueOf_concat, ← Nat.toDigits_append_toDigits (by decide) hpos hlt, hds', hlast]

namespace Figure

theorem ofNat_valueOf (f : Figure) : Digits.ofNat (Numeral.valueOf f.whole.val) = f.whole :=
  Subtype.ext (toDigits_valueOf f.whole.val f.whole.property.1 f.whole.property.2 f.whole_zero)

/-- An integer is in decimal notation: without fraction, exponent and negative zero. -/
theorem eq_ofInt_of_integer? {f : Figure} {i : Int} (h : f.numeral.integer? = some i) :
    f = ofInt i := by
  have hwhole := f.ofNat_valueOf
  obtain ⟨negative, whole, whole_zero, fraction, exponent⟩ := f
  rw [Numeral.integer?] at h
  split at h
  · cases h
  · rename_i hplain
    obtain ⟨rfl, rfl⟩ : fraction = none ∧ exponent = none := by
      simpa [numeral] using hplain
    have hofInt : decide (i < 0) = negative ∧ i.natAbs = Numeral.valueOf whole.val := by
      cases negative with
      | true =>
          obtain ⟨⟨hpos, -⟩, hi⟩ := Option.ite_none_right_eq_some.mp h
          have hpos : 0 < Numeral.valueOf whole.val := hpos
          have hi : -(Numeral.valueOf whole.val : Int) = i := Option.some.inj hi
          exact ⟨decide_eq_true (by omega), by omega⟩
      | false =>
          obtain ⟨-, hi⟩ := Option.ite_none_right_eq_some.mp h
          have hi : (Numeral.valueOf whole.val : Int) = i := Option.some.inj hi
          exact ⟨decide_eq_false (by omega), by omega⟩
    simp only [ofInt, hofInt.1, hofInt.2, hwhole]

end Figure

/-- An integer in its range, and nothing else, is read as one. -/
theorem decodeInt_eq_ok_iff {type : String} {least greatest i : Int} {v : Written}
    (hleast : -(twoPow 63 : Int) ≤ least) (hgreatest : greatest ≤ Numeral.maxWord) :
    decodeInt type least greatest v.document = .ok i ↔
      v = .int i ∧ least ≤ i ∧ i ≤ greatest := by
  constructor
  · intro h
    cases v with
    | number f =>
        rw [Written.document, decodeInt] at h
        obtain ⟨n, hn, h⟩ := bind_ok_iff.mp h
        rw [lift_eq_ok_iff, Numeral.number] at hn
        cases hi : f.numeral.integer? with
        | none =>
            rw [hi] at hn
            obtain ⟨x, -, hx⟩ := bind_ok_iff.mp hn
            cases hx
            cases h
        | some j =>
            rw [hi] at hn
            cases hn
            dsimp only at h
            split at h
            · rename_i hj
              cases h
              exact ⟨congrArg Written.number (Figure.eq_ofInt_of_integer? hi), hj⟩
            · cases h
    | null | bool _ | string _ | array _ _ | object _ _ =>
        rw [Written.document] at h
        cases h
  · rintro ⟨rfl, h⟩
    exact decodeInt_ofInt h hleast hgreatest

/-! ## Alternatives -/

namespace Variant

variable {α : Type} {variants : List (String × Variant α)} {variant : Variant α} {name : String}
  {gs : Glyphs} {a : α}

theorem alone_eq_ok_iff : variant.alone = .ok a ↔ variant = .plain a := by
  cases variant with
  | plain b => exact ⟨fun h => congrArg plain (Except.ok.inj h), fun h => by cases h; rfl⟩
  | content decode => exact ⟨nofun, nofun⟩

theorem find_eq_ok_iff : find variants name = .ok variant ↔ variants.lookup name = some variant := by
  rw [find]
  cases variants.lookup name with
  | none => exact ⟨nofun, nofun⟩
  | some v => exact ⟨fun h => congrArg some (Except.ok.inj h), fun h => by cases h; rfl⟩

theorem ofKey_eq_ok_iff : ofKey variants gs.document = .ok variant ↔
    ∃ name, gs.reading = .ok name ∧ variants.lookup name = some variant := by
  rw [Glyphs.document, ofKey, bind_ok_iff]
  simp only [lift_eq_ok_iff, find_eq_ok_iff]

theorem applied_plain_eq_ok_iff {v : Written} {b : α} :
    (plain a).applied v.document = .ok b ↔ v = .null ∧ a = b := by
  rw [applied, bind_ok_iff]
  constructor
  · rintro ⟨u, hu, h⟩
    cases v with
    | null => exact ⟨rfl, Except.ok.inj h⟩
    | bool _ | number _ | string _ | array _ _ | object _ _ =>
        rw [Written.document] at hu
        cases hu
  · rintro ⟨rfl, rfl⟩
    exact ⟨(), rfl, rfl⟩

end Variant

/-- A value of a type with alternatives is the name of one that stands alone, or an object whose only
member is named for one and has its content. -/
theorem decodeVariant_eq_ok_iff {α : Type} {variants : List (String × Variant α)} {v : Written}
    {a : α} : decodeVariant variants v.document = .ok a ↔
      (∃ gs name, v = .string gs ∧ gs.reading = .ok name ∧
        variants.lookup name = some (.plain a)) ∨
      ∃ gap key value name variant, v = .object gap [(key, value)] ∧ key.inner.reading = .ok name ∧
        variants.lookup name = some variant ∧ variant.applied value.inner.document = .ok a := by
  constructor
  · intro h
    cases v with
    | string gs =>
        obtain ⟨name, hname, h⟩ := bind_ok_iff.mp h
        obtain ⟨variant, hvariant, h⟩ := bind_ok_iff.mp h
        rw [Variant.find_eq_ok_iff, Variant.alone_eq_ok_iff.mp h] at hvariant
        exact .inl ⟨gs, name, rfl, lift_eq_ok_iff.mp hname, hvariant⟩
    | object gap ms =>
        cases ms with
        | nil => cases h
        | cons m rest =>
            obtain ⟨key, value⟩ := m
            obtain ⟨variant, hkey, h⟩ := bind_ok_iff.mp h
            obtain ⟨b, hvalue, h⟩ := bind_ok_iff.mp h
            obtain ⟨name, hname, hvariant⟩ := Variant.ofKey_eq_ok_iff.mp hkey
            cases rest with
            | nil =>
                cases h
                exact .inr ⟨gap, key, value, name, variant, rfl, hname, hvariant, hvalue⟩
            | cons m' rest => cases h
    | null | bool _ | number _ | array _ _ => cases h
  · rintro (⟨gs, name, rfl, hname, hvariant⟩ |
      ⟨gap, key, value, name, variant, rfl, hname, hvariant, hvalue⟩)
    · refine bind_ok_iff.mpr ⟨name, lift_eq_ok_iff.mpr hname, ?_⟩
      rw [Variant.find_eq_ok_iff.mpr hvariant]
      rfl
    · refine bind_ok_iff.mpr ⟨variant, Variant.ofKey_eq_ok_iff.mpr ⟨name, hname, hvariant⟩, ?_⟩
      exact bind_ok_iff.mpr ⟨a, hvalue, rfl⟩

/-! ## Passing over -/

namespace Written

mutual

/-- A text without faults can be passed over, whatever its strings and numbers stand for. -/
theorem pass_document : (v : Written) → v.document.pass = .ok ()
  | null | bool _ | number _ | string _ => rfl
  | array _ es => by
      rw [document, Document.pass, passAll_documents es]
      rfl
  | object _ ms => by
      rw [document, Document.pass, passMembers_documentsOfMembers ms]
      rfl

theorem passAll_documents : (es : List (Padded Written)) →
    Document.passAll (documents es) = .ok ()
  | [] => rfl
  | ⟨_, v, _⟩ :: es => by
      rw [documents, Document.passAll, pass_document v, ok_bind, passAll_documents es]

theorem passMembers_documentsOfMembers : (ms : List (Padded Glyphs × Padded Written)) →
    Document.passMembers (documentsOfMembers ms) = .ok ()
  | [] => rfl
  | (key, ⟨_, v, _⟩) :: ms => by
      have hkey : Document.passKey key.inner.document = .ok () := rfl
      rw [documentsOfMembers, Document.passMembers, hkey, ok_bind, pass_document v, ok_bind,
        passMembers_documentsOfMembers ms]

end

end Written

/-! ## Members -/

/-- No half of a character stands alone. -/
def Glyphs.IsWhole (gs : Glyphs) : Prop := ∃ s, gs.reading = .ok s

/-- The values of the members of a name, in the order of the text. -/
def valuesNamed (name : String) (ms : List (Padded Glyphs × Padded Written)) : List Written :=
  (ms.filter fun m => m.1.inner.reading = .ok name).map fun m => m.2.inner

section valuesNamed

variable {name other : String} {m : Padded Glyphs × Padded Written}

theorem valuesNamed_cons (name : String) (m : Padded Glyphs × Padded Written)
    (ms : List (Padded Glyphs × Padded Written)) :
    valuesNamed name (m :: ms) = valuesNamed name [m] ++ valuesNamed name ms := by
  rw [valuesNamed, ← List.singleton_append, List.filter_append, List.map_append]
  rfl

theorem valuesNamed_singleton_of_eq (h : m.1.inner.reading = .ok name) :
    valuesNamed name [m] = [m.2.inner] := by
  simp [valuesNamed, h]

theorem valuesNamed_singleton_of_ne (h : m.1.inner.reading = .ok other) (hne : other ≠ name) :
    valuesNamed name [m] = [] := by
  simp [valuesNamed, h, hne]

end valuesNamed

end WindowedLsb.Json
