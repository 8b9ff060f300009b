import Mathlib.Data.List.DropRight
import WindowedLsb.Json.Decode
import WindowedLsb.Proofs.Json.Scan

/-!
A text that is written as JSON is read as the document that it stands for, up to its end.
-/

namespace WindowedLsb.Json

/-! ## Blanks -/

theorem isBlank_iff {c : Char} :
    isBlank c = true ↔ c = ' ' ∨ c = '\t' ∨ c = '\n' ∨ c = '\r' := by
  simp only [isBlank, Bool.or_eq_true, beq_iff_eq, or_assoc]

theorem skipBlanks_append (b : Blanks) (rest : List Char) :
    skipBlanks (b.val ++ rest) = skipBlanks rest := List.dropWhile_append_of_pos b.property

theorem skipBlanks_cons {c : Char} (h : isBlank c = false) (cs : List Char) :
    skipBlanks (c :: cs) = c :: cs := List.dropWhile_cons_of_neg (by simp [h])

theorem skipBlanks_skipBlanks (cs : List Char) : skipBlanks (skipBlanks cs) = skipBlanks cs :=
  List.dropWhile_idempotent _ _

theorem readValue_skipBlanks (depth : Nat) (cs : List Char) :
    readValue depth (skipBlanks cs) = readValue depth cs := by
  cases depth with
  | zero => rw [readValue, readValue]
  | succ depth => rw [readValue, readValue, skipBlanks_skipBlanks]

theorem readElements_skipBlanks (depth : Nat) (cs : List Char) :
    readElements depth (skipBlanks cs) = readElements depth cs := by
  cases depth with
  | zero => rw [readElements, readElements]
  | succ depth => rw [readElements, readElements, readValue_skipBlanks]

theorem readMembers_skipBlanks (depth : Nat) (cs : List Char) :
    readMembers depth (skipBlanks cs) = readMembers depth cs := by
  cases depth with
  | zero => rw [readMembers, readMembers]
  | succ depth => rw [readMembers, readMembers, readValue_skipBlanks]

theorem readValue_blanks (depth : Nat) (b : Blanks) (cs : List Char) :
    readValue depth (b.val ++ cs) = readValue depth cs := by
  rw [← readValue_skipBlanks, skipBlanks_append, readValue_skipBlanks]

/-! ## What follows a value -/

theorem endsNumber_nil : EndsNumber [] := nofun

theorem endsNumber_cons {c : Char} (h : c.isDigit = false ∧ c ≠ '.' ∧ c ≠ 'e' ∧ c ≠ 'E')
    (cs : List Char) : EndsNumber (c :: cs) := by
  rintro _ ⟨⟩
  exact h

theorem endsNumber_blanks (b : Blanks) {rest : List Char} (h : EndsNumber rest) :
    EndsNumber (b.val ++ rest) := by
  obtain ⟨cs, hb⟩ := b
  cases cs with
  | nil => exact h
  | cons c cs =>
      apply endsNumber_cons
      rcases isBlank_iff.mp (hb c List.mem_cons_self) with rfl | rfl | rfl | rfl <;> decide

/-! ## Separators -/

theorem takeSeparator_comma (b : Blanks) (bracket : Char) (rest : List Char) :
    takeSeparator bracket (b.val ++ ',' :: rest) = .comma rest := by
  rw [takeSeparator, skipBlanks_append, skipBlanks_cons (by decide)]
  rfl

theorem takeSeparator_close (b : Blanks) {bracket : Char} (h : isBlank bracket = false)
    (hcomma : bracket ≠ ',') (rest : List Char) :
    takeSeparator bracket (b.val ++ bracket :: rest) = .close rest := by
  rw [takeSeparator, skipBlanks_append, skipBlanks_cons h]
  simp [hcomma]

/-! ## Brackets -/

theorem readValue_array_closed {depth : Nat} {cs rest : List Char}
    (h : skipBlanks cs = ']' :: rest) :
    readValue (depth + 1) ('[' :: cs) = (.array [] .closed, rest) := by
  rw [readValue, skipBlanks_cons (by decide)]
  simp only [h]

theorem readValue_array {depth : Nat} {c : Char} {cs cs' rest : List Char} {es : List Document}
    (h : skipBlanks cs = c :: cs') (hc : c ≠ ']')
    (he : readElements depth cs = (es, .closed, rest)) :
    readValue (depth + 1) ('[' :: cs) = (.array es .closed, rest) := by
  rw [← readElements_skipBlanks, h] at he
  rw [readValue, skipBlanks_cons (by decide)]
  simp only [h]
  split
  · rename_i heq
    cases heq
  · rename_i heq
    exact absurd (List.cons.inj heq).1 hc
  · rw [he]

theorem readElements_last {depth : Nat} {cs cs' rest : List Char} {d : Document}
    (hd : readValue depth cs = (d, cs')) (hs : takeSeparator ']' cs' = .close rest) :
    readElements (depth + 1) cs = ([d], .closed, rest) := by
  simp only [readElements, hd, hs]

theorem readElements_more {depth : Nat} {c : Char} {cs cs' cs'' more rest : List Char}
    {d : Document} {ds : List Document} (hd : readValue depth cs = (d, cs'))
    (hs : takeSeparator ']' cs' = .comma cs'') (hmore : skipBlanks cs'' = c :: more) (hc : c ≠ ']')
    (hds : readElements depth cs'' = (ds, .closed, rest)) :
    readElements (depth + 1) cs = (d :: ds, .closed, rest) := by
  rw [← readElements_skipBlanks, hmore] at hds
  simp only [readElements, hd, hs, hmore]
  split
  · rename_i heq
    cases heq
  · rename_i heq
    exact absurd (List.cons.inj heq).1 hc
  · rw [hds]

theorem readValue_object_closed {depth : Nat} {cs rest : List Char}
    (h : skipBlanks cs = '\x7d' :: rest) :
    readValue (depth + 1) ('\x7b' :: cs) = (.object [] .closed, rest) := by
  rw [readValue, skipBlanks_cons (by decide)]
  simp only [h]

theorem readValue_object {depth : Nat} {cs cs' rest : List Char} {ms : List (Document × Document)}
    (h : skipBlanks cs = '"' :: cs') (hm : readMembers depth cs = (ms, .closed, rest)) :
    readValue (depth + 1) ('\x7b' :: cs) = (.object ms .closed, rest) := by
  rw [← readMembers_skipBlanks, h] at hm
  rw [readValue, skipBlanks_cons (by decide)]
  simp only [h]
  exact congrArg (fun x => (Document.object x.1 x.2.1, x.2.2)) hm

section Members

variable {depth : Nat} {cs cs₁ cs₂ cs₃ cs₄ more rest : List Char} {key : Glyphs} {d : Document}

theorem readMembers_last (hkey : readValue depth cs = (key.document, cs₁))
    (hcolon : skipBlanks cs₁ = ':' :: cs₂) (hd : readValue depth cs₂ = (d, cs₃))
    (hs : takeSeparator '\x7d' cs₃ = .close rest) :
    readMembers (depth + 1) cs = ([(key.document, d)], .closed, rest) := by
  simp only [readMembers, hkey, Glyphs.document, hcolon, hd, hs]

theorem readMembers_more {ms : List (Document × Document)}
    (hkey : readValue depth cs = (key.document, cs₁)) (hcolon : skipBlanks cs₁ = ':' :: cs₂)
    (hd : readValue depth cs₂ = (d, cs₃)) (hs : takeSeparator '\x7d' cs₃ = .comma cs₄)
    (hmore : skipBlanks cs₄ = '"' :: more) (hms : readMembers depth cs₄ = (ms, .closed, rest)) :
    readMembers (depth + 1) cs = ((key.document, d) :: ms, .closed, rest) := by
  rw [← readMembers_skipBlanks, hmore] at hms
  simp only [readMembers, hkey, Glyphs.document, hcolon, hd, hs, hmore]
  exact congrArg (fun x => ((key.document, d) :: x.1, x.2.1, x.2.2)) hms

end Members

/-! ## Values -/

theorem Glyphs.readValue_text (gs : Glyphs) (depth : Nat) (rest : List Char) :
    readValue (depth + 1) ('"' :: (gs.text ++ '"' :: rest)) = (gs.document, rest) := by
  rw [readValue, skipBlanks_cons (by decide)]
  exact gs.readString_text rest

namespace Figure

theorem text_cons (f : Figure) : ∃ c cs, f.text = c :: cs ∧ (c = '-' ∨ c.isDigit = true) := by
  obtain ⟨d, more, hds, hd⟩ := head?_isDigit f.whole
  rw [text, hds]
  cases f.negative with
  | true => exact ⟨_, _, rfl, .inl rfl⟩
  | false => exact ⟨_, _, rfl, .inr hd⟩

theorem isBlank_of_cons {c : Char} (hc : c = '-' ∨ c.isDigit = true) : isBlank c = false := by
  rw [Bool.eq_false_iff, Ne, isBlank_iff]
  rintro (rfl | rfl | rfl | rfl) <;> simp at hc

theorem readValue_text (f : Figure) (depth : Nat) {rest : List Char} (h : EndsNumber rest) :
    readValue (depth + 1) (f.text ++ rest) = (.number f.numeral, rest) := by
  have hread := readNumber_text f h
  obtain ⟨c, cs, htext, hc⟩ := f.text_cons
  rw [htext] at hread ⊢
  rw [readValue, List.cons_append, skipBlanks_cons (isBlank_of_cons hc)]
  split <;> rename_i heq
  · cases heq
  -- A word, a string or a bracket does not start with a sign or digit.
  iterate 6
    obtain rfl := (List.cons.inj heq).1
    simp at hc
  · cases heq
    rw [if_pos hc]
    exact hread

end Figure

namespace Written

/-- The first character of a value is neither a blank nor a closing bracket. -/
theorem text_cons (v : Written) :
    ∃ c cs, v.text = c :: cs ∧ isBlank c = false ∧ c ≠ ']' := by
  cases v with
  | null | string _ | array _ _ | object _ _ =>
      rw [text]
      exact ⟨_, _, rfl, by decide⟩
  | bool b => cases b <;> rw [text] <;> exact ⟨_, _, rfl, by decide⟩
  | number f =>
      obtain ⟨c, cs, htext, hc⟩ := f.text_cons
      refine ⟨c, cs, by rw [text, htext], Figure.isBlank_of_cons hc, ?_⟩
      rintro rfl
      simp at hc

/-- Behind a value comes a comma or a closing bracket, which end a number. -/
theorem endsNumber_after (after : Blanks) (last : Bool) {bracket : Char}
    (h : bracket = ']' ∨ bracket = '\x7d') (cs rest : List Char) :
    EndsNumber (after.val ++ ((if last then [] else ',' :: cs) ++ bracket :: rest)) := by
  apply endsNumber_blanks
  cases last with
  | false => exact endsNumber_cons (by decide) _
  | true =>
      apply endsNumber_cons
      rcases h with rfl | rfl <;> decide

theorem skipBlanks_elements {es : List (Padded Written)} (h : es ≠ []) (rest : List Char) :
    ∃ c cs, skipBlanks (textOfElements es ++ rest) = c :: cs ∧ c ≠ ']' := by
  obtain ⟨⟨before, v, after⟩, es, rfl⟩ := List.exists_cons_of_ne_nil h
  obtain ⟨c, cs, htext, hblank, hc⟩ := v.text_cons
  simp only [textOfElements, List.append_assoc, skipBlanks_append, htext, List.cons_append,
    skipBlanks_cons hblank]
  exact ⟨c, _, rfl, hc⟩

theorem skipBlanks_members {ms : List (Padded Glyphs × Padded Written)} (h : ms ≠ [])
    (rest : List Char) : ∃ cs, skipBlanks (textOfMembers ms ++ rest) = '"' :: cs := by
  obtain ⟨⟨key, ⟨before, v, after⟩⟩, ms, rfl⟩ := List.exists_cons_of_ne_nil h
  have hquote : isBlank '"' = false := by decide
  simp only [textOfMembers, List.append_assoc, skipBlanks_append, List.cons_append,
    skipBlanks_cons hquote]
  exact ⟨_, rfl⟩

-- The induction is on the value. Every level of the reader leaves a bracket or comma behind, and so
-- the length of the text bounds the depth all the way down.
mutual

theorem readValue_text : (v : Written) → {depth : Nat} → v.text.length ≤ depth →
    {rest : List Char} → EndsNumber rest → readValue depth (v.text ++ rest) = (v.document, rest)
  | null, depth + 1, _, rest, _ => by
      rw [text, readValue, List.cons_append, skipBlanks_cons (by decide)]
      rfl
  | bool true, depth + 1, _, rest, _ | bool false, depth + 1, _, rest, _ => by
      rw [text, readValue, List.cons_append, skipBlanks_cons (by decide)]
      rfl
  | number f, depth + 1, _, rest, hrest => f.readValue_text depth hrest
  | string gs, depth + 1, _, rest, _ => by
      rw [text, List.cons_append, List.append_assoc]
      exact gs.readValue_text depth rest
  | array gap es, depth + 1, hd, rest, _ => by
      rw [text, List.length_cons, List.length_append, List.length_append, List.length_singleton] at hd
      rw [text, List.cons_append, List.append_assoc, List.append_assoc, document]
      cases es with
      | nil =>
          apply readValue_array_closed
          rw [skipBlanks_append]
          exact skipBlanks_cons (by decide) _
      | cons e es =>
          have hne : e :: es ≠ [] := List.cons_ne_nil _ _
          obtain ⟨c, cs, hskip, hc⟩ := skipBlanks_elements hne (']' :: rest)
          refine readValue_array ((skipBlanks_append _ _).trans hskip) hc ?_
          rw [← readElements_skipBlanks, skipBlanks_append, readElements_skipBlanks]
          exact readElements_text (e :: es) hne (by omega)
  | object gap ms, depth + 1, hd, rest, _ => by
      rw [text, List.length_cons, List.length_append, List.length_append, List.length_singleton] at hd
      rw [text, List.cons_append, List.append_assoc, List.append_assoc, document]
      cases ms with
      | nil =>
          apply readValue_object_closed
          rw [skipBlanks_append]
          exact skipBlanks_cons (by decide) _
      | cons m ms =>
          have hne : m :: ms ≠ [] := List.cons_ne_nil _ _
          obtain ⟨cs, hskip⟩ := skipBlanks_members hne ('\x7d' :: rest)
          refine readValue_object ((skipBlanks_append _ _).trans hskip) ?_
          rw [← readMembers_skipBlanks, skipBlanks_append, readMembers_skipBlanks]
          exact readMembers_text (m :: ms) hne (by omega)
  | v, 0, hd, rest, _ => by
      obtain ⟨c, cs, htext, -⟩ := v.text_cons
      rw [htext] at hd
      exact absurd hd (Nat.not_succ_le_zero _)

theorem readElements_text : (es : List (Padded Written)) → es ≠ [] → {depth : Nat} →
    (textOfElements es).length < depth → {rest : List Char} →
    readElements depth (textOfElements es ++ ']' :: rest) = (documents es, .closed, rest)
  | ⟨before, v, after⟩ :: es, _, depth + 1, hd, rest => by
      simp only [textOfElements, List.length_append] at hd
      simp only [textOfElements, List.append_assoc]
      have hv : readValue depth (v.text ++ _) = _ := readValue_text v (by omega)
        (endsNumber_after after es.isEmpty (.inl rfl) (textOfElements es) rest)
      rw [← readValue_blanks depth before] at hv
      cases es with
      | nil => exact readElements_last hv (takeSeparator_close after (by decide) (by decide) rest)
      | cons e es =>
          have hne : e :: es ≠ [] := List.cons_ne_nil _ _
          obtain ⟨c, cs, hskip, hc⟩ := skipBlanks_elements hne (']' :: rest)
          have hlength : (textOfElements (e :: es)).length < depth := by
            simp only [List.isEmpty_cons, Bool.false_eq_true, if_false, List.length_cons] at hd
            omega
          exact readElements_more hv (takeSeparator_comma after ']' _) hskip hc
            (readElements_text (e :: es) hne hlength)

theorem readMembers_text : (ms : List (Padded Glyphs × Padded Written)) → ms ≠ [] → {depth : Nat} →
    (textOfMembers ms).length < depth → {rest : List Char} →
    readMembers depth (textOfMembers ms ++ '\x7d' :: rest) = (documentsOfMembers ms, .closed, rest)
  | (key, ⟨before, v, after⟩) :: ms, _, depth + 1, hd, rest => by
      simp only [textOfMembers, List.length_append, List.length_cons] at hd
      simp only [textOfMembers, List.append_assoc, List.cons_append]
      obtain ⟨d, rfl⟩ : ∃ d, depth = d + 1 := Nat.exists_eq_succ_of_ne_zero (by omega)
      have hkey := key.inner.readValue_text d (key.after.val ++ (':' :: (before.val ++ (v.text ++
        (after.val ++ ((if ms.isEmpty = true then [] else ',' :: textOfMembers ms) ++
          '\x7d' :: rest))))))
      rw [← readValue_blanks _ key.before] at hkey
      have hcolon {cs : List Char} : skipBlanks (key.after.val ++ ':' :: cs) = ':' :: cs := by
        rw [skipBlanks_append]
        exact skipBlanks_cons (by decide) cs
      have hv : readValue (d + 1) (v.text ++ _) = _ := readValue_text v (by omega)
        (endsNumber_after after ms.isEmpty (.inr rfl) (textOfMembers ms) rest)
      rw [← readValue_blanks _ before] at hv
      cases ms with
      | nil =>
          exact readMembers_last hkey hcolon hv
            (takeSeparator_close after (by decide) (by decide) rest)
      | cons m ms =>
          have hne : m :: ms ≠ [] := List.cons_ne_nil _ _
          obtain ⟨cs, hskip⟩ := skipBlanks_members hne ('\x7d' :: rest)
          have hlength : (textOfMembers (m :: ms)).length < d + 1 := by
            simp only [List.isEmpty_cons, Bool.false_eq_true, if_false, List.length_cons] at hd
            omega
          exact readMembers_more hkey hcolon hv (takeSeparator_comma after '\x7d' _) hskip
            (readMembers_text (m :: ms) hne hlength)

end

/-- The text of a value, with blanks around it, is read as its document, and nothing but blanks is
left over. -/
theorem read_text (before : Blanks) (v : Written) (after : Blanks) :
    read (String.ofList (before.val ++ (v.text ++ after.val))) = (v.document, after.val) := by
  have hends : EndsNumber after.val := by
    have h := endsNumber_blanks after endsNumber_nil
    rwa [List.append_nil] at h
  rw [read, String.toList_ofList, readValue_blanks]
  refine readValue_text v ?_ hends
  rw [List.length_append, List.length_append]
  omega

end Written
/-- The text of a value is decoded as its document is, whatever blanks stand around it. -/
theorem decodeText_text {α : Type} (decode : Decoder α) (before : Blanks) (v : Written)
    (after : Blanks) : decodeText decode (String.ofList (before.val ++ (v.text ++ after.val))) =
      decode v.document := by
  have hafter : skipBlanks after.val = [] := by
    have h := skipBlanks_append after []
    rwa [List.append_nil] at h
  rw [decodeText, Written.read_text]
  cases hd : decode v.document with
  | error p => simp only [hd]; rfl
  | ok a => simp only [hd, hafter, ok_bind]

/-- A text that is one value with blanks around it. -/
def Padded.text (p : Padded Written) : String :=
  String.ofList (p.before.val ++ (p.inner.text ++ p.after.val))

theorem Padded.decodeText_text {α : Type} (decode : Decoder α) (p : Padded Written) :
    decodeText decode p.text = decode p.inner.document :=
  Json.decodeText_text decode p.before p.inner p.after

end WindowedLsb.Json
