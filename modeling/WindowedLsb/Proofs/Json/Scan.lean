import Mathlib.Data.List.TakeDrop
import WindowedLsb.Proofs.Except
import WindowedLsb.Proofs.Json.Written

/-!
Strings and numbers are read as they are written, up to their end and no further.
-/

namespace WindowedLsb.Json

/-! ## Strings -/

theorem takeUnit_digits (a b c d : HexDigit) (rest : List Char) :
    takeUnit (a.char :: b.char :: c.char :: d.char :: rest) = .ok (Glyph.number a b c d, rest) := by
  rw [takeUnit]
  simp only [HexDigit.hexDigit?_char]
  rfl

namespace Glyph

/-- The step in a string that a glyph makes. -/
def piece (rest : List Char) : Glyph → Piece
  | plain c _ | short _ c _ => .char c rest
  | unit a b c d => .unit (number a b c d) rest

theorem takePiece_text (g : Glyph) (rest : List Char) :
    takePiece (g.text ++ rest) = g.piece rest := by
  cases g with
  | plain c h =>
      obtain ⟨hquote, hslash, hcontrol⟩ := isPlain_iff.mp h
      rw [text, List.singleton_append, takePiece.eq_def]
      split <;> rename_i heq <;> cases heq
      · exact absurd rfl hquote
      · exact absurd rfl hslash
      · exact absurd rfl hslash
      · exact absurd rfl hslash
      · rw [if_neg (UInt32.not_lt.mpr hcontrol)]
        rfl
  | short letter c h =>
      rw [escaped?.eq_def] at h
      split at h <;> cases h <;> rfl
  | unit a b c d =>
      simp only [text, List.cons_append, List.nil_append, takePiece, takeUnit_digits]
      rfl

/-- Behind a leading half there must be the number of a trailing one. -/
theorem takeTrailing_unit (a b c d : HexDigit) (rest : List Char) :
    takeTrailing ((unit a b c d).text ++ rest) =
      if isTrailing (number a b c d) then .ok (number a b c d, rest) else .error .malformed := by
  simp only [text, List.cons_append, List.nil_append, takeTrailing, takeUnit_digits]
  rfl

end Glyph

namespace Glyphs

theorem text_cons (g : Glyph) (gs : Glyphs) (rest : List Char) :
    text (g :: gs) ++ rest = g.text ++ (text gs ++ rest) := by
  rw [text, List.flatMap_cons, List.append_assoc]
  rfl

/-- One round for every glyph and one for the quote are enough. -/
theorem passContent_text (gs : Glyphs) (more : Nat) (rest : List Char) :
    passContent (more + gs.length + 1) (gs.text ++ '"' :: rest) = .ok rest := by
  induction gs with
  | nil => rfl
  | cons g gs ih =>
      rw [text_cons, passContent, Glyph.takePiece_text]
      cases g <;> exact ih

theorem takeTrailing_cons {c : Char} (h : c ≠ '\\') (cs : List Char) :
    takeTrailing (c :: cs) = .error .malformed := by
  rw [takeTrailing.eq_def]
  split
  · rename_i heq
    exact absurd (List.cons.inj heq).1 h
  · rename_i heq
    cases heq
  · rename_i heq
    exact absurd (List.cons.inj heq).1 h
  · rfl

/-- Behind a leading half nothing but a unit will do. -/
theorem takeTrailing_text {gs : Glyphs} (h : ∀ a b c d gs', gs ≠ .unit a b c d :: gs')
    (rest : List Char) : takeTrailing (gs.text ++ '"' :: rest) = .error .malformed := by
  cases gs with
  | nil => rfl
  | cons g gs =>
      rw [text_cons]
      cases g with
      | plain c hc => exact takeTrailing_cons (isPlain_iff.mp hc).2.1 _
      | short letter c hc =>
          rw [escaped?.eq_def] at hc
          split at hc <;> cases hc <;> rfl
      | unit a b c d => exact absurd rfl (h a b c d gs)

theorem spell_cons (before : List Char) (c : Char) (cs? : Option (List Char)) :
    spell (c :: before) cs? = spell before (cs?.map (c :: ·)) := by
  cases cs? <;> simp [spell]

theorem readContent_char {g : Glyph} {c : Char} {rest : List Char} (h : g.piece rest = .char c rest)
    (steps : Nat) (before : List Char) :
    readContent (steps + 1) (g.text ++ rest) before = readContent steps rest (c :: before) := by
  rw [readContent, Glyph.takePiece_text, h]

theorem readContent_unit (a b c d : HexDigit) (steps : Nat) (rest before : List Char) :
    readContent (steps + 1) ((Glyph.unit a b c d).text ++ rest) before =
      match takeCharacter (Glyph.number a b c d) rest with
      | .ok (char, rest) => readContent steps rest (char :: before)
      | .error f => .error f := by
  rw [readContent, Glyph.takePiece_text]
  rfl

/-- Each round reads a glyph, or the two halves of a character. -/
theorem readContent_text (gs : Glyphs) (more : Nat) (rest before : List Char) :
    readContent (more + gs.length + 1) (gs.text ++ '"' :: rest) before =
      spell before (Glyph.chars? gs) := by
  fun_induction Glyph.chars? gs generalizing more before with
  | case1 =>
      rw [spell, List.append_nil]
      rfl
  | case2 c hc gs ih | case3 letter c hc gs ih =>
      rw [text_cons, ← spell_cons, ← ih]
      exact readContent_char rfl _ _
  | case4 a b c d a' b' c' d' gs u htrailing =>
      rw [text_cons]
      refine (readContent_unit _ _ _ _ _ _ _).trans ?_
      rw [takeCharacter, if_pos htrailing]
      rfl
  | case5 a b c d a' b' c' d' gs u v htrailing hleading htrailing' ih =>
      -- Both halves go in one round, so that a round is left over.
      rw [text_cons, text_cons, ← spell_cons, ← ih (more + 1)]
      refine (readContent_unit _ _ _ _ _ _ _).trans ?_
      rw [takeCharacter, if_neg htrailing, if_pos hleading, Glyph.takeTrailing_unit,
        if_pos htrailing', Nat.add_right_comm more 1]
      rfl
  | case6 a b c d a' b' c' d' gs u v htrailing hleading htrailing' =>
      rw [text_cons, text_cons]
      refine (readContent_unit _ _ _ _ _ _ _).trans ?_
      rw [takeCharacter, if_neg htrailing, if_pos hleading, Glyph.takeTrailing_unit,
        if_neg htrailing']
      rfl
  | case7 a b c d a' b' c' d' gs u htrailing hleading ih =>
      rw [text_cons, ← spell_cons, ← ih]
      refine (readContent_unit _ _ _ _ _ _ _).trans ?_
      rw [takeCharacter, if_neg htrailing, if_neg hleading]
      rfl
  | case8 a b c d gs hgs u hhalf =>
      rw [text_cons]
      refine (readContent_unit _ _ _ _ _ _ _).trans ?_
      -- A trailing half fails at once, a leading one because no unit comes next.
      by_cases htrailing : isTrailing (Glyph.number a b c d) = true
      · rw [takeCharacter, if_pos htrailing]
        rfl
      · rw [takeCharacter, if_neg htrailing,
          if_pos ((Bool.or_eq_true_iff.mp hhalf).resolve_left htrailing), takeTrailing_text hgs]
        rfl
  | case9 a b c d gs hgs u hwhole ih =>
      rw [Bool.not_eq_true, Bool.or_eq_false_iff] at hwhole
      rw [text_cons, ← spell_cons, ← ih]
      refine (readContent_unit _ _ _ _ _ _ _).trans ?_
      rw [takeCharacter, if_neg (by simp [u, hwhole.1]), if_neg (by simp [u, hwhole.2])]
      rfl

theorem length_le_length_text (gs : Glyphs) : gs.length ≤ gs.text.length := by
  induction gs with
  | nil => exact Nat.zero_le _
  | cons g gs ih =>
      have hg : 0 < g.text.length := by cases g <;> exact Nat.zero_lt_succ _
      have hlength : text (g :: gs) = g.text ++ text gs := List.flatMap_cons
      rw [hlength, List.length_append, List.length_cons]
      omega

theorem readString_text (gs : Glyphs) (rest : List Char) :
    readString (gs.text ++ '"' :: rest) = (gs.document, rest) := by
  have hlength : gs.length ≤ (gs.text ++ '"' :: rest).length := by
    rw [List.length_append]
    exact Nat.le_add_right_of_le (length_le_length_text gs)
  obtain ⟨more, hmore⟩ := Nat.exists_eq_add_of_le' hlength
  rw [readString, hmore, passContent_text, readContent_text]
  rfl

end Glyphs

/-! ## Numbers -/

/-- What can follow a number: it must not make the number longer. -/
def EndsNumber (rest : List Char) : Prop :=
  ∀ c ∈ rest.head?, c.isDigit = false ∧ c ≠ '.' ∧ c ≠ 'e' ∧ c ≠ 'E'

theorem takeSomeDigits_text (ds : Digits) {rest : List Char}
    (h : ∀ c ∈ rest.head?, c.isDigit = false) :
    takeSomeDigits (ds.val ++ rest) = .ok (ds.val, rest) := by
  obtain ⟨ds, hne, hall⟩ := ds
  have hspan : takeDigits (ds ++ rest) = (ds, rest) := by
    rw [takeDigits, List.span_eq_takeWhile_dropWhile, List.takeWhile_append_of_pos hall,
      List.dropWhile_append_of_pos hall]
    cases rest with
    | nil => simp
    | cons c cs => simp [h c rfl]
  rw [takeSomeDigits, hspan]
  cases ds with
  | nil => exact absurd rfl hne
  | cons d ds => rfl

theorem takeWhole_text (ds : Digits) (hzero : ds.val.head? = some '0' → ds.val = ['0'])
    {rest : List Char} (h : ∀ c ∈ rest.head?, c.isDigit = false) :
    takeWhole (ds.val ++ rest) = .ok (ds.val, rest) := by
  rw [takeWhole, takeSomeDigits_text ds h, ok_bind]
  dsimp only
  split
  · rename_i heq
    rw [heq] at hzero
    exact absurd (hzero rfl) (by simp)
  · rfl

theorem head?_isDigit (ds : Digits) : ∃ d rest, ds.val = d :: rest ∧ d.isDigit = true := by
  obtain ⟨ds, hne, hall⟩ := ds
  obtain ⟨d, rest, rfl⟩ := List.exists_cons_of_ne_nil hne
  exact ⟨d, rest, rfl, hall d List.mem_cons_self⟩

theorem takeSign_cons {c : Char} (h : c ≠ '-' ∧ c ≠ '+') (cs : List Char) :
    takeSign (c :: cs) = (false, c :: cs) := by
  rw [takeSign.eq_def]
  split
  · rename_i heq
    exact absurd (List.cons.inj heq).1 h.1
  · rename_i heq
    exact absurd (List.cons.inj heq).1 h.2
  · rfl

theorem takeSign_signText (sign : Option Bool) (ds : Digits) (rest : List Char) :
    takeSign (Exponent.signText sign ++ (ds.val ++ rest)) = (sign.getD false, ds.val ++ rest) := by
  match sign with
  | none =>
      obtain ⟨d, more, hds, hd⟩ := head?_isDigit ds
      rw [hds]
      have hsign : d ≠ '-' ∧ d ≠ '+' := by
        constructor
        · rintro rfl
          cases hd
        · rintro rfl
          cases hd
      exact takeSign_cons hsign _
  | some true => rfl
  | some false => rfl

theorem takeExponent_text (e : Exponent) {rest : List Char}
    (h : ∀ c ∈ rest.head?, c.isDigit = false) :
    takeExponent (e.text ++ rest) = .ok (some (e.sign.getD false, e.digits.val), rest) := by
  obtain ⟨capital, sign, ds⟩ := e
  cases capital <;>
    simp only [Exponent.text, List.cons_append, List.append_assoc, takeExponent, takeSign_signText,
      takeSomeDigits_text ds h, Bool.false_eq_true, if_true, if_false] <;>
    rfl

theorem takeExponent_none {rest : List Char} (h : ∀ c ∈ rest.head?, c ≠ 'e' ∧ c ≠ 'E') :
    takeExponent rest = .ok (none, rest) := by
  rw [takeExponent.eq_def]
  split
  · exact absurd rfl (h 'e' rfl).1
  · exact absurd rfl (h 'E' rfl).2
  · rfl

theorem takeFraction_text (ds : Digits) {rest : List Char}
    (h : ∀ c ∈ rest.head?, c.isDigit = false) :
    takeFraction ('.' :: ds.val ++ rest) = .ok (some ds.val, rest) := by
  rw [List.cons_append, takeFraction, takeSomeDigits_text ds h]
  rfl

theorem takeFraction_none {rest : List Char} (h : ∀ c ∈ rest.head?, c ≠ '.') :
    takeFraction rest = .ok (none, rest) := by
  rw [takeFraction.eq_def]
  split
  · exact absurd rfl (h '.' rfl)
  · rfl

/-- A number behind its sign. -/
def takeUnsigned (negative : Bool) (cs : List Char) : Except Fault (Numeral × List Char) := do
  let (whole, cs) ← takeWhole cs
  let (fraction, cs) ← takeFraction cs
  let (exponent, cs) ← takeExponent cs
  return (⟨negative, whole, fraction, exponent⟩, cs)

theorem takeNumeral_minus (cs : List Char) : takeNumeral ('-' :: cs) = takeUnsigned true cs := rfl

theorem takeNumeral_cons {c : Char} (h : c ≠ '-') (cs : List Char) :
    takeNumeral (c :: cs) = takeUnsigned false (c :: cs) := by
  rw [takeNumeral.eq_2 _ fun _ heq => h (List.cons.inj heq).1]
  rfl

namespace Figure

theorem head?_exponentText (f : Figure) {rest : List Char} (h : EndsNumber rest) :
    ∀ c ∈ (f.exponentText ++ rest).head?, c.isDigit = false ∧ c ≠ '.' := by
  intro c hc
  rw [exponentText] at hc
  cases he : f.exponent with
  | none =>
      rw [he] at hc
      exact ⟨(h c hc).1, (h c hc).2.1⟩
  | some e =>
      rw [he, Option.elim, Exponent.text] at hc
      cases hcapital : e.capital <;> rw [hcapital] at hc <;> cases hc <;> exact ⟨rfl, by decide⟩

theorem head?_fractionText (f : Figure) {rest : List Char}
    (h : ∀ c ∈ rest.head?, c.isDigit = false ∧ c ≠ '.') :
    ∀ c ∈ (f.fractionText ++ rest).head?, c.isDigit = false := by
  intro c hc
  rw [fractionText] at hc
  cases hf : f.fraction with
  | none =>
      rw [hf] at hc
      exact (h c hc).1
  | some ds =>
      rw [hf] at hc
      cases hc
      rfl

theorem takeUnsigned_text (f : Figure) (negative : Bool) {rest : List Char} (h : EndsNumber rest) :
    takeUnsigned negative (f.whole.val ++ (f.fractionText ++ (f.exponentText ++ rest))) =
      .ok ({ f.numeral with negative := negative }, rest) := by
  have hhead := head?_exponentText f h
  have hexponent : takeExponent (f.exponentText ++ rest) =
      .ok (f.exponent.map fun e => (e.sign.getD false, e.digits.val), rest) := by
    rw [exponentText]
    cases f.exponent with
    | none => exact takeExponent_none fun c hc => (h c hc).2.2
    | some e => exact takeExponent_text e fun c hc => (h c hc).1
  have hfraction : takeFraction (f.fractionText ++ (f.exponentText ++ rest)) =
      .ok (f.fraction.map Subtype.val, f.exponentText ++ rest) := by
    rw [fractionText]
    cases f.fraction with
    | none => exact takeFraction_none fun c hc => (hhead c hc).2
    | some ds => exact takeFraction_text ds fun c hc => (hhead c hc).1
  have hwhole := takeWhole_text f.whole f.whole_zero (head?_fractionText f hhead)
  simp only [takeUnsigned, hwhole, hfraction, hexponent, ok_bind]
  rfl

theorem takeNumeral_text (f : Figure) {rest : List Char} (h : EndsNumber rest) :
    takeNumeral (f.text ++ rest) = .ok (f.numeral, rest) := by
  have htext : f.text ++ rest = (if f.negative then ['-'] else []) ++
      (f.whole.val ++ (f.fractionText ++ (f.exponentText ++ rest))) := by
    rw [text, List.append_assoc, List.append_assoc, List.append_assoc]
  have hnumeral : f.numeral = { f.numeral with negative := f.negative } := rfl
  rw [htext, hnumeral, ← takeUnsigned_text f f.negative h]
  cases f.negative with
  | true => exact takeNumeral_minus _
  | false =>
      obtain ⟨d, more, hds, hd⟩ := head?_isDigit f.whole
      rw [hds]
      refine takeNumeral_cons ?_ _
      rintro rfl
      cases hd

end Figure

theorem readNumber_text (f : Figure) {rest : List Char} (h : EndsNumber rest) :
    readNumber (f.text ++ rest) = (.number f.numeral, rest) := by
  rw [readNumber, f.takeNumeral_text h]

end WindowedLsb.Json
