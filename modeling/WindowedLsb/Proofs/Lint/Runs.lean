import WindowedLsb.Lint.Grammar.Input

/-!
Runs of parsers: what is known of the steps of a parser that has come to its end. A repetition is a chain
of runs, each from where the one before it ended, and brackets that leave no token over are read through.
-/

namespace WindowedLsb.Lint.Parser

variable {α β : Type} {p : Parser α} {f : α → Parser β} {i j k : Input} {a : α} {as : List α} {b : β}

theorem bind_of_eq_ok (h : p i = .ok (a, j)) : (p >>= f) i = f a j := by
  change Except.bind (p i) _ = _
  rw [h]
  rfl

/-- A second step gets what the first leaves. -/
theorem bind_eq_ok_iff :
    (p >>= f) i = .ok (b, k) ↔ ∃ a j, p i = .ok (a, j) ∧ f a j = .ok (b, k) := by
  constructor
  · intro h
    cases hp : p i with
    | error line =>
        change Except.bind (p i) _ = _ at h
        rw [hp] at h
        cases h
    | ok x => exact ⟨x.1, x.2, rfl, (bind_of_eq_ok hp).symm.trans h⟩
  · rintro ⟨a, j, hp, hf⟩
    rw [bind_of_eq_ok hp, hf]

/-- What follows from every result of a second step follows from that of both. -/
theorem of_bind {P : Prop} (hP : ∀ a j, f a j = .ok (b, k) → P) (h : (p >>= f) i = .ok (b, k)) :
    P := by
  obtain ⟨a, j, -, hf⟩ := bind_eq_ok_iff.mp h
  exact hP a j hf

/-! ## Single tokens -/

theorem acceptWord_eq (w : String) (i : Input) : acceptWord w i =
    if Token.isWord w i.rest then .ok (true, { i with rest := i.rest.drop 1 })
    else .ok (false, i) := by
  change (if Token.isWord w i.rest = true then _ else _ : Parser Bool) i = _
  split <;> rfl

theorem accept_eq (marks : String) (i : Input) : accept marks i =
    if Token.areMarks marks.toList i.rest then
      .ok (true, { i with rest := i.rest.drop marks.length })
    else .ok (false, i) := by
  change (if Token.areMarks marks.toList i.rest = true then _ else _ : Parser Bool) i = _
  split <;> rfl

theorem expect_eq_ok {marks : String} (h : expect marks i = .ok ((), k)) :
    Token.areMarks marks.toList i.rest = true := by
  change (if Token.areMarks marks.toList i.rest = true then _ else _ : Parser Unit) i = _ at h
  split at h
  · assumption
  · cases h

theorem announced_eq (marks : String) (p : Parser (List α)) (i : Input) : announced marks p i =
    if Token.areMarks marks.toList i.rest then p { i with rest := i.rest.drop marks.length }
    else .ok ([], i) := by
  have h := accept_eq marks i
  split at h
  · rename_i hm
    rw [if_pos hm, announced, bind_of_eq_ok h]
    rfl
  · rename_i hm
    rw [if_neg hm, announced, bind_of_eq_ok h]
    rfl

/-- A repetition that reads nothing has found no more to read. -/
theorem repeatWhile_eq_nil_iff {more : List Token → Bool} :
    repeatWhile (ahead more) p i = .ok ([], k) ↔ more i.rest = false ∧ k = i := by
  have hrun : repeatWhile (ahead more) p i =
      (if more i.rest = true then (p >>= fun a => rounds (ahead more) p i.width >>= fun as =>
        return a :: as) else return [] : Parser (List α)) i := rfl
  rw [hrun]
  split
  · rename_i hm
    rw [hm]
    refine ⟨fun h => ?_, fun h => nomatch h.1⟩
    obtain ⟨_, _, -, h⟩ := bind_eq_ok_iff.mp h
    obtain ⟨_, _, -, h⟩ := bind_eq_ok_iff.mp h
    cases h
  · rename_i hm
    refine ⟨fun h => ⟨Bool.eq_false_iff.mpr hm, ?_⟩, fun h => h.2 ▸ rfl⟩
    cases h
    rfl

/-- Runs of one parser, each from where the one before it ended, with what they give. -/
inductive Runs (p : Parser α) : Input → List α → Input → Prop where
  | nil (i : Input) : Runs p i [] i
  | cons {i j k : Input} {a : α} {as : List α} :
      p i = .ok (a, j) → Runs p j as k → Runs p i (a :: as) k

theorem rounds_eq_ok {more : List Token → Bool} {steps : Nat}
    (h : rounds (ahead more) p steps i = .ok (as, k)) : Runs p i as k := by
  induction steps generalizing i as with
  | zero =>
      cases h
      exact .nil _
  | succ steps ih =>
      change (if more i.rest = true then _ else _ : Parser (List α)) i = _ at h
      split at h
      · obtain ⟨a, j, ha, h⟩ := bind_eq_ok_iff.mp h
        obtain ⟨as, j', has, h⟩ := bind_eq_ok_iff.mp h
        cases h
        exact .cons ha (ih has)
      · cases h
        exact .nil _

theorem untilEnd_eq_ok (h : untilEnd p i = .ok (as, k)) : Runs p i as k := by
  have hrounds : rounds (ahead fun ts => !ts.isEmpty) p (i.width + 1) i = .ok (as, k) := h
  exact rounds_eq_ok hrounds

/-! ## Brackets -/

/-- A pair of brackets comes next, and `p` reads what is between them through to the end. -/
def Fills (d : Delimiter) (p : Parser α) (i : Input) (a : α) : Prop :=
  ∃ opened closed content rest j, i.rest = .group d opened closed content :: rest ∧
    p ⟨content, content.length, closed, i.stray⟩ = .ok (a, j) ∧ j.rest = []

/-- Of brackets that are not read through, a token is noted as left over. -/
theorem group_eq_ok {d : Delimiter} (h : group d p i = .ok (a, k)) (hk : k.stray = none) :
    Fills d p i a := by
  obtain ⟨⟨b, left⟩, j, hopen, h⟩ := bind_eq_ok_iff.mp h
  cases h
  rw [openGroup] at hopen
  split at hopen
  · rename_i e opened closed content rest hi
    split at hopen
    · rename_i hd
      split at hopen
      · rename_i c l hp
        cases hopen
        have hleft : l.rest.head? = none :=
          Option.map_eq_none_iff.mp (Option.or_eq_none_iff.mp hk).2
        exact ⟨opened, closed, content, rest, l, hd ▸ hi, hp, List.head?_eq_none_iff.mp hleft⟩
      · cases hopen
    · cases hopen
  · cases hopen

end WindowedLsb.Lint.Parser
