import Mathlib.Data.List.Basic
import WindowedLsb.Json.Decode
import WindowedLsb.Proofs.Json.Written

/-!
JSON as it is written by a program: integers in decimal notation, strings without escapes, objects
without blanks.
-/

namespace WindowedLsb.Json

/-! ## Integers -/

/-- The decimal digits of a number. -/
def Digits.ofNat (n : Nat) : Digits :=
  ⟨Nat.toDigits 10 n, Nat.toDigits_ne_nil,
    fun _ hc => Nat.isDigit_of_mem_toDigits (by decide) (by decide) hc⟩

theorem digitChar_ne_zero : ∀ n < 10, 0 < n → Nat.digitChar n ≠ '0' := by decide

/-- Only the number zero starts with that digit. -/
theorem head?_toDigits {n : Nat} (h : 0 < n) : (Nat.toDigits 10 n).head? ≠ some '0' := by
  induction n using Nat.base_induction 10 (by decide) with
  | single m hm =>
      rw [Nat.toDigits_of_lt_base hm, List.head?_cons, Ne, Option.some_inj]
      exact digitChar_ne_zero m hm h
  | digit m k hk hm ih =>
      -- The first digit is that of the number without its last one.
      rw [← Nat.toDigits_append_toDigits (by decide) hm hk,
        List.head?_append_of_ne_nil _ Nat.toDigits_ne_nil]
      exact ih hm

theorem toDigits_eq_zero {n : Nat} (h : (Nat.toDigits 10 n).head? = some '0') :
    Nat.toDigits 10 n = ['0'] := by
  rcases Nat.eq_zero_or_pos n with rfl | hn
  · exact Nat.toDigits_zero 10
  · exact absurd h (head?_toDigits hn)

theorem valueOf_toDigits (n : Nat) : Numeral.valueOf (Nat.toDigits 10 n) = n :=
  Nat.ofDigitChars_ten_toDigits

namespace Figure

/-- An integer in decimal notation. -/
def ofInt (i : Int) : Figure where
  negative := decide (i < 0)
  whole := .ofNat i.natAbs
  whole_zero := toDigits_eq_zero
  fraction := none
  exponent := none

theorem text_ofInt (i : Int) : (ofInt i).text = (toString i).toList := by
  have htext : (ofInt i).text = (if i < 0 then ['-'] else []) ++ Nat.toDigits 10 i.natAbs := by
    simp [text, fractionText, exponentText, ofInt, Digits.ofNat]
  rw [htext, Int.toString_eq_repr, Int.repr.eq_def]
  cases i with
  | ofNat n => exact Nat.toList_repr.symm
  | negSucc n =>
      rw [if_pos (Int.negSucc_lt_zero n), Int.natAbs_negSucc]
      change _ = ("-" ++ n.succ.repr).toList
      rw [String.toList_append, Nat.toList_repr]
      rfl

/-- It stands for itself where a word is large enough. -/
theorem number_ofInt {i : Int} (hleast : -(twoPow 63 : Int) ≤ i) (hgreatest : i ≤ Numeral.maxWord) :
    (ofInt i).numeral.number = .ok (.integer i) := by
  have hinteger : (ofInt i).numeral.integer? = some i := by
    have hvalue : Numeral.valueOf (ofInt i).numeral.whole = i.natAbs := valueOf_toDigits _
    have hnegative : (ofInt i).numeral.negative = decide (i < 0) := rfl
    rw [Numeral.integer?, if_neg (by simp [numeral, ofInt]), hvalue, hnegative]
    dsimp only
    split <;> rename_i hsign <;> rw [decide_eq_true_eq] at hsign
    · rw [if_pos (by omega)]
      exact congrArg some (by omega)
    · rw [if_pos (by omega)]
      exact congrArg some (by omega)
  rw [Numeral.number, hinteger]

end Figure

theorem decodeInt_ofInt {type : String} {least greatest i : Int} (h : least ≤ i ∧ i ≤ greatest)
    (hleast : -(twoPow 63 : Int) ≤ least) (hgreatest : greatest ≤ Numeral.maxWord) :
    decodeInt type least greatest (.number (Figure.ofInt i).numeral) = .ok i := by
  rw [decodeInt, Figure.number_ofInt (Int.le_trans hleast h.1) (Int.le_trans h.2 hgreatest)]
  exact if_pos h

/-! ## Strings and objects -/

/-- Characters that all stand for themselves. -/
def Glyphs.ofString (s : String) (h : s.toList.all isPlain = true) : Glyphs :=
  s.toList.pmap .plain (List.all_eq_true.mp h)

theorem Glyphs.text_pmap (cs : List Char) (h : ∀ c ∈ cs, isPlain c = true) :
    text (cs.pmap .plain h) = cs := by
  induction cs with
  | nil => rfl
  | cons c cs ih => exact congrArg (c :: ·) (ih fun d hd => h d (List.mem_cons_of_mem c hd))

theorem Glyphs.chars?_pmap (cs : List Char) (h : ∀ c ∈ cs, isPlain c = true) :
    Glyph.chars? (cs.pmap .plain h) = some cs := by
  induction cs with
  | nil => rfl
  | cons c cs ih =>
      rw [List.pmap_cons, Glyph.chars?, ih fun d hd => h d (List.mem_cons_of_mem c hd)]
      rfl

theorem Glyphs.text_ofString (s : String) (h : s.toList.all isPlain = true) :
    (ofString s h).text = s.toList := text_pmap _ _

theorem Glyphs.document_ofString (s : String) (h : s.toList.all isPlain = true) :
    (ofString s h).document = .string (.ok s) none := by
  rw [document, reading, ofString, chars?_pmap, spell, List.reverse_nil, List.nil_append,
    String.ofList_toList]

namespace Written

def int (i : Int) : Written := .number (.ofInt i)

def name (s : String) (h : s.toList.all isPlain = true) : Written := .string (.ofString s h)

def member (s : String) (h : s.toList.all isPlain = true) (v : Written) :
    Padded Glyphs × Padded Written :=
  (⟨noBlanks, .ofString s h, noBlanks⟩, ⟨noBlanks, v, noBlanks⟩)

theorem text_int (i : Int) : (int i).text = (toString i).toList := Figure.text_ofInt i

theorem text_natCast (n : Nat) : (int n).text = (toString n).toList := text_int n

theorem text_object (ms : List (Padded Glyphs × Padded Written)) :
    (object noBlanks ms).text = '\x7b' :: (textOfMembers ms ++ ['\x7d']) := by
  rw [text]
  rfl

theorem textOfMembers_member (s : String) (h : s.toList.all isPlain = true) (v : Written)
    (ms : List (Padded Glyphs × Padded Written)) :
    textOfMembers (member s h v :: ms) = '"' :: (s.toList ++ ('"' :: ':' ::
      (v.text ++ if ms.isEmpty then [] else ',' :: textOfMembers ms))) := by
  rw [member, textOfMembers, Glyphs.text_ofString]
  rfl

end Written
end WindowedLsb.Json
