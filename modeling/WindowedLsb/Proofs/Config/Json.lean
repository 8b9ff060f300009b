import WindowedLsb.Config.Json
import WindowedLsb.Proofs.Json.Compact
import WindowedLsb.Proofs.Json.Reading

/-!
What is written of counters, shifts, header fields and window parameters is read as the same value.
-/

namespace WindowedLsb

open Json Json.Written

/-! ## Values as they are written -/

def Counter.Reading.written {c : Counter} (r : Counter.Reading c) : Written := .int r.toNat

def Shift.written : Shift → Written
  | fixed p => .object noBlanks [member "Fixed" (by decide) (.int p.toInt)]
  | rtpSequenceNumber => .name "RtpSequenceNumber" (by decide)
  | rtpTimestamp => .name "RtpTimestamp" (by decide)

def HeaderField.written (f : HeaderField) : Written := .name f.name (by cases f <;> decide)

def Config.written (c : Config) : Written :=
  .object noBlanks [member "max_bits" (by decide) (.int c.maxBits.toNat),
    member "window_width" (by decide) (.int c.width.toNat),
    member "shift" (by decide) c.shift.written]

/-! ## Texts -/

theorem Counter.Reading.text_written {c : Counter} (r : Counter.Reading c) :
    r.written.text = r.json.toList := Figure.text_ofInt r.toNat

theorem Shift.text_written (s : Shift) : s.written.text = s.json.toList := by
  cases s with
  | fixed p => simp [written, json, text_object, textOfMembers_member, text_int]
  | rtpSequenceNumber => rfl
  | rtpTimestamp => rfl

theorem HeaderField.text_written (f : HeaderField) : f.written.text = f.json.toList := by
  cases f <;> rfl

theorem Config.text_written (c : Config) : c.written.text = c.json.toList := by
  delta json
  simp only [written, text_object, textOfMembers_member, text_natCast, Shift.text_written,
    String.toList_append, List.isEmpty_cons, List.isEmpty_nil, Bool.false_eq_true, if_true,
    if_false, List.append_nil, List.append_assoc, List.cons_append]
  rfl

/-! ## Decoding -/

theorem decodeWord_int {type : String} {bits n : Nat} (hn : n < twoPow bits) (hbits : bits ≤ 64) :
    decodeWord type bits (int n).document = .ok n := by
  have hword : twoPow bits ≤ twoPow 64 := Nat.pow_le_pow_right (by decide) hbits
  have hmax : Numeral.maxWord = twoPow 64 - 1 := rfl
  have hint : decodeInt type 0 (twoPow bits - 1) (int n).document = .ok (n : Int) :=
    decodeInt_ofInt (by omega) (by omega) (by omega)
  rw [decodeWord, hint]
  rfl

theorem Counter.Reading.decode_written {c : Counter} (r : Counter.Reading c) :
    decode c r.written.document = .ok r := by
  rw [decode, written, decodeWord_int r.toNat_lt (c.bits_le.trans (by decide))]
  exact congrArg Except.ok r.ofNat_toNat

theorem Shift.decode_written (s : Shift) : decode s.written.document = .ok s := by
  cases s with
  | fixed p =>
      have hint :
          decodeInt "i32" (-twoPow 31) (twoPow 31 - 1) (int p.toInt).document = .ok p.toInt :=
        decodeInt_ofInt ⟨p.le_toInt, Int.le_sub_one_of_lt p.toInt_lt⟩ (by decide) (by decide)
      have hrun : decode (written (.fixed p)).document =
          ((decodeInt "i32" (-twoPow 31) (twoPow 31 - 1) (int p.toInt).document >>=
            fun i => .ok (.fixed (Int32.ofInt i))) >>= fun s => .ok s) := rfl
      rw [hrun, hint, ok_bind, ok_bind, Int32.ofInt_toInt]
  | rtpSequenceNumber => rfl
  | rtpTimestamp => rfl

theorem HeaderField.decode_written (f : HeaderField) : decode f.written.document = .ok f := by
  cases f <;> rfl

namespace Config

namespace Draft

variable {p : Draft} {d : Document}

theorem addAll_string (p : Draft) (name : String) (passing : Option Fault) (d : Document)
    (rest : List (Document × Document)) :
    p.addAll ((.string (.ok name) passing, d) :: rest) = p.add name d >>= fun q => q.addAll rest :=
  rfl

theorem add_maxBits {a : UInt8} (hp : p.maxBits = none) (hd : decodeMaxBits d = .ok a) :
    p.add "max_bits" d = .ok { p with maxBits := some a } := by
  simp only [add, fresh, hp, hd]
  rfl

theorem add_width {a : UInt64} (hp : p.width = none) (hd : decodeWidth d = .ok a) :
    p.add "window_width" d = .ok { p with width := some a } := by
  simp only [add, fresh, hp, hd]
  rfl

theorem add_shift {a : Shift} (hp : p.shift = none) (hd : Shift.decode d = .ok a) :
    p.add "shift" d = .ok { p with shift := some a } := by
  simp only [add, fresh, hp, hd]
  rfl

end Draft

theorem decodeMaxBits_int (n : UInt8) : decodeMaxBits (int n.toNat).document = .ok n := by
  rw [decodeMaxBits, decodeWord_int n.toNat_lt (by decide), ok_bind, UInt8.ofNat_toNat]
  rfl

theorem decodeWidth_int (n : UInt64) : decodeWidth (int n.toNat).document = .ok n := by
  rw [decodeWidth, decodeWord_int n.toNat_lt (by decide), ok_bind, UInt64.ofNat_toNat]
  rfl

theorem decode_written (c : Config) : decode c.written.document = .ok c := by
  have hdraft : Draft.addAll {} (documentsOfMembers [
      member "max_bits" (by decide) (int c.maxBits.toNat),
      member "window_width" (by decide) (int c.width.toNat),
      member "shift" (by decide) c.shift.written]) =
      .ok ⟨some c.maxBits, some c.width, some c.shift⟩ := by
    simp only [documentsOfMembers, member, Glyphs.document_ofString]
    rw [Draft.addAll_string, Draft.add_maxBits rfl (decodeMaxBits_int c.maxBits), ok_bind,
      Draft.addAll_string, Draft.add_width rfl (decodeWidth_int c.width), ok_bind,
      Draft.addAll_string, Draft.add_shift rfl c.shift.decode_written]
    rfl
  rw [written, document, decode, hdraft]
  rfl

end Config

/-! ## Round trips -/

/-- What is written of the value that is read from a text. -/
def canonicalize {α : Type} (write : α → String) (decode : Decoder α) (text : String) :
    Except Problem String := (decodeText decode text).map write

/-- What is written of a value is read as that value. Thus every text that has a value has a
canonical form, which has the same value and is its own canonical form. -/
structure RoundTrips {α : Type} (write : α → String) (decode : Decoder α) : Prop where
  decode_write : ∀ a, decodeText decode (write a) = .ok a
  canonicalize_canonical : ∀ text canonical, canonicalize write decode text = .ok canonical →
    decodeText decode canonical = decodeText decode text ∧
      canonicalize write decode canonical = .ok canonical

theorem RoundTrips.of_written {α : Type} {write : α → String} {decode : Decoder α}
    (written : α → Written) (htext : ∀ a, (written a).text = (write a).toList)
    (hdecode : ∀ a, decode (written a).document = .ok a) : RoundTrips write decode := by
  have hread : ∀ a, decodeText decode (write a) = .ok a := by
    intro a
    have h := decodeText_text decode noBlanks (written a) noBlanks
    rw [htext, hdecode] at h
    simpa [noBlanks] using h
  refine ⟨hread, ?_⟩
  intro text canonical h
  rw [canonicalize] at h
  cases ha : decodeText decode text with
  | error p =>
      rw [ha] at h
      cases h
  | ok a =>
      rw [ha] at h
      cases h
      exact ⟨hread a, by rw [canonicalize, hread]; rfl⟩

/-- Window parameters, shifts, header fields and readings of all counters survive JSON, valid or
not. -/
theorem json_round_trips :
    RoundTrips Config.json Config.decode ∧
    RoundTrips Shift.json Shift.decode ∧
    RoundTrips HeaderField.json HeaderField.decode ∧
    ∀ c : Counter, RoundTrips (Counter.Reading.json (c := c)) (Counter.Reading.decode c) :=
  ⟨.of_written Config.written Config.text_written Config.decode_written,
    .of_written Shift.written Shift.text_written Shift.decode_written,
    .of_written HeaderField.written HeaderField.text_written HeaderField.decode_written,
    fun _ => .of_written Counter.Reading.written Counter.Reading.text_written
      Counter.Reading.decode_written⟩

end WindowedLsb
