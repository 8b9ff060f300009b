import WindowedLsb.Lint.Grammar.File
import WindowedLsb.Proofs.Lint.Runs

/-!
What the phrases of the grammar keep. An operand keeps its nodes whatever calls, members or operators
stand behind it. Other phrases are read as a row of parts, and what the parts give they hold: a binding
its type and its value, a body all its statements, a module or an implementation all its members, a file
all its items.
-/

namespace WindowedLsb.Lint

open WindowedLsb.Lint.Parser

namespace Grammar

variable {g : Grammar} {attributes inner : Attributes} {i k : Input} {ns ms ls : List Node} {depth : Nat}
  {e e' : Expression}

/-! ## Operands -/

/-- The nodes come first, possibly as the first in a call, or in calls around each other. -/
inductive Leads (ns : List Node) : List Node → Prop where
  | here (rest : List Node) : Leads ns (ns ++ rest)
  | inCall {method : String} {line : Nat} {children : List Node} (rest : List Node) :
      Leads ns children → Leads ns (.call method line children :: rest)

theorem Leads.refl (ns : List Node) : Leads ns ns := by
  have h : Leads ns (ns ++ []) := .here []
  rwa [List.append_nil] at h

theorem Leads.append (h : Leads ns ms) (rest : List Node) : Leads ns (ms ++ rest) := by
  cases h with
  | here between =>
      rw [List.append_assoc]
      exact .here _
  | inCall between hc => exact .inCall _ hc

theorem Leads.trans (h : Leads ns ms) (h' : Leads ms ls) : Leads ns ls := by
  induction h' with
  | here rest => exact h.append rest
  | inCall rest _ ih => exact .inCall rest ih

theorem callOf_leads {arguments : Option (List Node)} {start : List Token}
    (h : callOf g e arguments start i = .ok (e', k)) : Leads e.nodes e'.nodes := by
  rw [callOf.eq_def] at h
  split at h
  · refine of_bind (fun paren _ h => ?_) h
    split at h
    · refine of_bind (fun values _ h => ?_) h
      cases h
      rw [List.append_assoc]
      exact .inCall [] (.here _)
    · cases h
      exact .refl _
  · cases h
    exact .refl _

theorem memberOf_leads (h : memberOf g e i = .ok (e', k)) : Leads e.nodes e'.nodes := by
  refine of_bind (fun awaits _ h => ?_) h
  split at h
  · cases h
    exact .refl _
  · refine of_bind (fun _ _ => of_bind fun _ _ => of_bind fun _ _ h => ?_) h
    dsimp only at h
    split at h
    · exact of_bind (fun _ _ => of_bind fun _ _ h => callOf_leads h) h
    · exact of_bind (fun _ _ h => callOf_leads h) h

/-- Calls, members and indices behind an operand come after what the operand holds, or around it. -/
theorem trailers_leads {steps : Nat} (h : trailers g steps e i = .ok (e', k)) :
    Leads e.nodes e'.nodes := by
  induction steps generalizing e i with
  | zero =>
      cases h
      exact .refl _
  | succ steps ih =>
      have hkept {j : Input} (h : trailers g steps (.plain e.nodes false) j = .ok (e', k)) :
          Leads e.nodes e'.nodes := ih (e := .plain e.nodes false) h
      rw [trailers] at h
      refine of_bind (fun paren _ h => ?_) h
      split at h
      · exact of_bind (fun values _ h => (Leads.here _).trans (ih h)) h
      · refine of_bind (fun dot _ => of_bind fun dots _ h => ?_) h
        split at h
        · refine of_bind (fun _ _ => of_bind fun open_ _ h => ?_) h
          split at h
          · obtain ⟨e₁, _, hm, h⟩ := bind_eq_ok_iff.mp h
            exact (memberOf_leads hm).trans (ih h)
          · exact hkept h
        · refine of_bind (fun bracket _ h => ?_) h
          split at h
          · exact of_bind (fun index _ h => (Leads.here _).trans (ih h)) h
          · refine of_bind (fun mark _ h => ?_) h
            split at h
            · exact of_bind (fun _ _ h => hkept h) h
            · cases h
              exact .refl _

section Calls

variable {method : String} {line : Nat} {opened closed : Nat} {arguments rest : List Token}

theorem member_of_name (hi : i.rest = .word method line :: rest)
    (hm : Token.keywords.contains method = false) :
    Grammar.member i = .ok (true, { i with rest := rest }) := by
  obtain ⟨_, width, endLine, stray⟩ := i
  obtain rfl := hi
  have hname : Token.isName (.word method line :: rest) = true := by rw [Token.isName, hm]; rfl
  have hword : name ⟨.word method line :: rest, width, endLine, stray⟩ =
      .ok ((method, line), ⟨rest, width, endLine, stray⟩) := by
    rw [name, bind_of_eq_ok (a := true) (by rw [← hname]; rfl)]
    rfl
  change (name >>= fun _ => return true) _ = _
  rw [bind_of_eq_ok hword]
  rfl

/-- A name with parentheses behind it is a call, of what stands in front of it and the arguments. -/
theorem memberOf_call
    (hi : i.rest = .word method line :: .group .paren opened closed arguments :: rest)
    (hm : Token.keywords.contains method = false) (h : memberOf g e i = .ok (e', k)) :
    ∃ values, group .paren (listed (g.expression true)) { i with rest := i.rest.drop 1 } =
        .ok (values, k) ∧
      e'.nodes = [.call method line (e.nodes ++ values.flatMap Expression.nodes)] := by
  obtain ⟨_, width, endLine, stray⟩ := i
  obtain rfl := hi
  have hawait : (method == "await") = false := by
    rw [beq_eq_false_iff_ne]
    rintro rfl
    exact absurd hm (by decide)
  obtain ⟨awaits, j, hawaits, h⟩ := bind_eq_ok_iff.mp h
  rw [acceptWord_eq, if_neg (by simp [Token.isWord, hawait])] at hawaits
  cases hawaits
  obtain ⟨start, j, hstart, h⟩ := bind_eq_ok_iff.mp h
  cases hstart
  rw [bind_of_eq_ok (member_of_name rfl hm)] at h
  obtain ⟨colons, j, hcolons, h⟩ := bind_eq_ok_iff.mp h
  cases hcolons
  obtain ⟨turbofished, j, hnone, h⟩ := bind_eq_ok_iff.mp h
  cases hnone
  obtain ⟨paren, j, hparen, h⟩ := bind_eq_ok_iff.mp h
  cases hparen
  obtain ⟨values, j, hvalues, h⟩ := bind_eq_ok_iff.mp h
  cases h
  refine ⟨values, hvalues, ?_⟩
  change [Node.call method line (e.nodes ++ [] ++ values.flatMap Expression.nodes)] = _
  rw [List.append_nil]

/-- A method call behind an operand is kept, with the operand and the arguments in it. -/
theorem trailers_call {steps : Nat} {joint : Bool} {dotLine : Nat} (hi : i.rest =
      .mark '.' joint dotLine :: .word method line :: .group .paren opened closed arguments :: rest)
    (hm : Token.keywords.contains method = false) (he : e.form ≠ .range)
    (h : trailers g (steps + 1) e i = .ok (e', k)) :
    ∃ values j, group .paren (listed (g.expression true)) { i with rest := i.rest.drop 2 } =
        .ok (values, j) ∧
      Leads [.call method line (e.nodes ++ values.flatMap Expression.nodes)] e'.nodes := by
  obtain ⟨_, width, endLine, stray⟩ := i
  obtain rfl := hi
  rw [trailers] at h
  obtain ⟨paren, j, hparen, h⟩ := bind_eq_ok_iff.mp h
  cases hparen
  obtain ⟨dot, j, hdot, h⟩ := bind_eq_ok_iff.mp h
  cases hdot
  obtain ⟨dots, j, hdots, h⟩ := bind_eq_ok_iff.mp h
  have hsingle : dots = false ∧ j = ⟨.mark '.' joint dotLine :: .word method line ::
      .group .paren opened closed arguments :: rest, width, endLine, stray⟩ := by
    cases hdots
    exact ⟨by simp [Token.areMarks], rfl⟩
  obtain ⟨rfl, rfl⟩ := hsingle
  rw [if_pos (by simp [Token.areMarks, he])] at h
  obtain ⟨_, j, hexpect, h⟩ := bind_eq_ok_iff.mp h
  cases hexpect
  obtain ⟨further, j, hfurther, h⟩ := bind_eq_ok_iff.mp h
  cases hfurther
  obtain ⟨e₁, j, hmember, h⟩ := bind_eq_ok_iff.mp h
  obtain ⟨values, hvalues, hnodes⟩ := memberOf_call rfl hm hmember
  refine ⟨values, j, hvalues, ?_⟩
  rw [← hnodes]
  exact trailers_leads h

end Calls

/-! ## Operators -/

theorem rangeRest_leads {allowStruct : Bool} (h : rangeRest g ns allowStruct i = .ok (e', k)) :
    Leads ns e'.nodes := by
  refine of_bind (fun closed _ => of_bind fun ends _ h => ?_) h
  split at h
  · cases h
    exact .refl _
  · refine of_bind (fun stop _ h => ?_) h
    cases h
    exact .here _

/-- Operators and their right operands come after what the left operand holds. -/
theorem operatorRounds_leads {allowStruct : Bool} {least : Binding} {steps : Nat}
    (h : operatorRounds g allowStruct least steps e i = .ok (e', k)) : Leads e.nodes e'.nodes := by
  induction steps generalizing e i with
  | zero =>
      cases h
      exact .refl _
  | succ steps ih =>
      have hright {ms : List Node} {form : Form} {endsInBrace : Bool} {place : AttributePlace}
          {j : Input} (h : operatorRounds g allowStruct least steps
            ⟨e.nodes ++ ms, form, endsInBrace, place⟩ j = .ok (e', k)) : Leads e.nodes e'.nodes :=
        (Leads.here ms).trans (ih h)
      rw [operatorRounds] at h
      split at h
      · cases h
        exact .refl _
      refine of_bind (fun next _ h => ?_) h
      split at h
      · rename_i marks binding
        split at h
        · cases h
          exact .refl _
        · dsimp only at h
          split at h
          · exact of_bind (fun _ _ => of_bind fun _ _ => of_bind fun _ _ h => hright h) h
          · exact of_bind (fun _ _ => of_bind fun _ _ h => hright h) h
      · refine of_bind (fun assigns _ h => ?_) h
        split at h
        · exact of_bind (fun _ _ => of_bind fun _ _ h => hright h) h
        refine of_bind (fun dots _ h => ?_) h
        split at h
        · obtain ⟨e₁, _, hrange, h⟩ := bind_eq_ok_iff.mp h
          exact (rangeRest_leads hrange).trans (ih h)
        refine of_bind (fun casts _ h => ?_) h
        split at h
        · exact of_bind (fun _ _ => of_bind fun _ _ h => hright h) h
        · cases h
          exact .refl _

/-! ## Bindings -/

/-- A part with a mark in front: what `P` says of the part, and nothing where the mark is missing. -/
inductive Announced (marks : String) (P : Input → List Node → Input → Prop) :
    Input → List Node → Input → Prop where
  | absent {i : Input} : Token.areMarks marks.toList i.rest = false → Announced marks P i [] i
  | present {i k : Input} {ns : List Node} : Token.areMarks marks.toList i.rest = true →
      P { i with rest := i.rest.drop marks.length } ns k → Announced marks P i ns k

theorem announced_eq_ok {marks : String} {p : Parser (List Node)}
    (h : announced marks p i = .ok (ns, k)) :
    Announced marks (fun i ns k => p i = .ok (ns, k)) i ns k := by
  rw [announced_eq] at h
  split at h
  · exact .present ‹_› h
  · cases h
    exact .absent (Bool.eq_false_iff.mpr ‹_›)

theorem Announced.imp {marks : String} {P Q : Input → List Node → Input → Prop}
    (h : Announced marks P i ns k) (hPQ : ∀ {i ns k}, P i ns k → Q i ns k) :
    Announced marks Q i ns k := by
  cases h with
  | absent hm => exact .absent hm
  | present hm hp => exact .present hm (hPQ hp)

def TypeGives (g : Grammar) (i : Input) (ns : List Node) (k : Input) : Prop :=
  ∃ t, g.type true i = .ok (t, k) ∧ ns = t.nodes

/-- A value, and behind a keyword the block for a value that does not fit. -/
inductive ValueGives (g : Grammar) : Input → List Node → Input → Prop where
  | value {i k : Input} {e : Expression} : g.expression true i = .ok (e, k) →
      (e.endsInBrace = true ∨ Token.isWord "else" k.rest = false) → ValueGives g i e.nodes k
  | orElse {i j k : Input} {e : Expression} {otherwise : List Node} :
      g.expression true i = .ok (e, j) → Token.isWord "else" j.rest = true →
      block g { j with rest := j.rest.drop 1 } = .ok (otherwise, k) →
      ValueGives g i (e.nodes ++ otherwise) k

theorem boundValue_eq_ok (h : boundValue g i = .ok (ns, k)) : ValueGives g i ns k := by
  obtain ⟨e, j, he, h⟩ := bind_eq_ok_iff.mp h
  obtain ⟨taken, l, htaken, h⟩ := bind_eq_ok_iff.mp h
  cases hb : e.endsInBrace with
  | true =>
      rw [hb] at htaken
      cases htaken
      cases h
      exact .value he (.inl hb)
  | false =>
      rw [hb] at htaken
      change acceptWord "else" j = _ at htaken
      rw [acceptWord_eq] at htaken
      split at htaken
      · rename_i helse
        cases htaken
        obtain ⟨otherwise, k, hblock, h⟩ := bind_eq_ok_iff.mp h
        cases h
        exact .orElse he helse hblock
      · rename_i helse
        cases htaken
        cases h
        exact .value he (.inr (Bool.eq_false_iff.mpr helse))

/-- A binding holds what its attributes, its pattern, its type and its value hold. -/
theorem letStatement_eq_ok {s : Statement} (h : letStatement g attributes i = .ok (s, k)) :
    ∃ p type value i₁ i₂ i₃ i₄, expectWord "let" i = .ok ((), i₁) ∧
      patternPhrase g i₁ = .ok (p, i₂) ∧ Announced ":" (TypeGives g) i₂ type i₃ ∧
      Announced "=" (ValueGives g) i₃ value i₄ ∧ expect ";" i₄ = .ok ((), k) ∧
      s = ⟨attributes.nodes ++ p.nodes ++ type ++ value, true⟩ := by
  obtain ⟨_, i₁, hlet, h⟩ := bind_eq_ok_iff.mp h
  obtain ⟨p, i₂, hp, h⟩ := bind_eq_ok_iff.mp h
  obtain ⟨type, i₃, htype, h⟩ := bind_eq_ok_iff.mp h
  obtain ⟨value, i₄, hvalue, h⟩ := bind_eq_ok_iff.mp h
  obtain ⟨_, i₅, hend, h⟩ := bind_eq_ok_iff.mp h
  cases h
  have htype' : Announced ":" (TypeGives g) i₂ type i₃ :=
    (announced_eq_ok htype).imp fun h => by
      obtain ⟨t, _, ht, h⟩ := bind_eq_ok_iff.mp h
      cases h
      exact ⟨t, ht, rfl⟩
  exact ⟨p, type, value, i₁, i₂, i₃, i₄, hlet, hp, htype',
    (announced_eq_ok hvalue).imp boundValue_eq_ok, hend, rfl⟩

/-! ## Statements -/

def semicolons : Parser (List Unit) := repeatWhile (sees ";") (expect ";")

/-- A statement behind any number of semicolons. -/
def nextStatement (g : Grammar) : Parser Statement := do
  let _ ← semicolons
  statement g

/-- The nodes of statements one behind another, up to the end of the tokens, with semicolons anywhere
between. -/
def StatementNodes (g : Grammar) (i : Input) (ns : List Node) : Prop :=
  ∃ ss j us k, Runs (nextStatement g) i ss j ∧ semicolons j = .ok (us, k) ∧ k.rest = [] ∧
    ns = ss.flatMap Statement.nodes

theorem StatementNodes.nil {us : List Unit} (h : semicolons i = .ok (us, k)) (hk : k.rest = []) :
    StatementNodes g i [] :=
  ⟨[], i, us, k, .nil i, h, hk, rfl⟩

theorem StatementNodes.cons {s : Statement} {j : Input} (hs : nextStatement g i = .ok (s, j))
    (h : StatementNodes g j ns) : StatementNodes g i (s.nodes ++ ns) := by
  obtain ⟨ss, l, us, k, hruns, hend, hk, rfl⟩ := h
  exact ⟨s :: ss, l, us, k, .cons hs hruns, hend, hk, rfl⟩

theorem StatementNodes.at_end (hi : i.rest = []) : StatementNodes g i [] :=
  .nil (repeatWhile_eq_nil_iff.mpr ⟨by rw [hi]; rfl, rfl⟩) hi

theorem statementRounds_eq_ok {steps : Nat} (h : statementRounds g steps i = .ok (ns, k))
    (hk : k.rest = []) : StatementNodes g i ns := by
  induction steps generalizing i ns with
  | zero =>
      cases h
      exact .at_end hk
  | succ steps ih =>
      obtain ⟨us, j, hus, h⟩ := bind_eq_ok_iff.mp h
      change (if j.rest.isEmpty = true then _ else _ : Parser (List Node)) j = _ at h
      split at h
      · cases h
        exact .nil hus hk
      · obtain ⟨s, l, hs, h⟩ := bind_eq_ok_iff.mp h
        have hnext : nextStatement g i = .ok (s, l) := by
          rw [nextStatement, semicolons, bind_of_eq_ok hus, hs]
        split at h
        · obtain ⟨ms, _, hms, h⟩ := bind_eq_ok_iff.mp h
          cases h
          exact .cons hnext (ih hms)
        -- A statement that is not complete is the last one.
        · change (if l.rest.isEmpty = true then _ else _ : Parser (List Node)) l = _ at h
          split at h
          · cases h
            have hlast : StatementNodes g i (s.nodes ++ []) := .cons hnext (.at_end hk)
            rwa [List.append_nil] at hlast
          · cases h

theorem statementsPhrase_eq_ok (h : statementsPhrase g i = .ok (ns, k)) (hk : k.rest = []) :
    StatementNodes g i ns := by
  have hrounds : statementRounds g (i.width + 1) i = .ok (ns, k) := h
  exact statementRounds_eq_ok hrounds hk

/-! ## Braces -/

theorem block_eq_ok (h : block (ofDepth (depth + 1)) i = .ok (ns, k)) (hk : k.stray = none) :
    ∃ opened closed content rest, i.rest = .group .brace opened closed content :: rest ∧
      StatementNodes (ofDepth depth) ⟨content, content.length, closed, i.stray⟩ ns := by
  obtain ⟨opened, closed, content, rest, l, hi, h, hl⟩ := group_eq_ok h hk
  have hphrase : statementsPhrase (ofDepth depth) ⟨content, content.length, closed, i.stray⟩ =
      .ok (ns, l) := h
  exact ⟨opened, closed, content, rest, hi, statementsPhrase_eq_ok hphrase hl⟩

/-- Braces come next. In them there are attributes of the item around them, and `P` holds of the rest. -/
def Encloses (g : Grammar) (i : Input) (inner : Attributes) (P : Input → Prop) : Prop :=
  ∃ opened closed content rest j, i.rest = .group .brace opened closed content :: rest ∧
    innerAttributes g ⟨content, content.length, closed, i.stray⟩ = .ok (inner, j) ∧ P j

theorem enclosed_eq_ok {α : Type} {p : Parser α} {a : α}
    (h : enclosed g p i = .ok ((inner, a), k)) (hk : k.stray = none) :
    Encloses g i inner fun j => ∃ k, p j = .ok (a, k) ∧ k.rest = [] := by
  obtain ⟨opened, closed, content, rest, l, hi, h, hl⟩ := group_eq_ok h hk
  obtain ⟨as, j, has, h⟩ := bind_eq_ok_iff.mp h
  obtain ⟨b, j', hb, h⟩ := bind_eq_ok_iff.mp h
  cases h
  exact ⟨opened, closed, content, rest, j, hi, has, _, hb, hl⟩

/-- A body holds what all its statements hold. -/
theorem body_eq_ok (h : body (ofDepth (depth + 1)) i = .ok ((inner, ns), k)) (hk : k.stray = none) :
    Encloses (ofDepth (depth + 1)) i inner (StatementNodes (ofDepth depth) · ns) := by
  obtain ⟨opened, closed, content, rest, j, hi, hinner, l, hns, hl⟩ := enclosed_eq_ok h hk
  have hphrase : statementsPhrase (ofDepth depth) j = .ok (ns, l) := hns
  exact ⟨opened, closed, content, rest, j, hi, hinner, statementsPhrase_eq_ok hphrase hl⟩

/-- A block that is an expression holds its attributes and what all its statements hold. -/
theorem bodyBlock_eq_ok (h : bodyBlock (ofDepth (depth + 1)) i = .ok (ns, k)) (hk : k.stray = none) :
    ∃ inner nodes, Encloses (ofDepth (depth + 1)) i inner (StatementNodes (ofDepth depth) · nodes) ∧
      ns = inner.nodes ++ nodes := by
  obtain ⟨⟨inner, nodes⟩, _, hbody, h⟩ := bind_eq_ok_iff.mp h
  cases h
  exact ⟨inner, nodes, body_eq_ok hbody hk, rfl⟩

/-- The nodes of members one behind another, up to the end of the tokens. -/
def MemberNodes (p : Parser (List Node)) (i : Input) (ns : List Node) : Prop :=
  ∃ parts k, Runs p i parts k ∧ k.rest = [] ∧ ns = parts.flatten

/-- Braces hold what all members between them hold. -/
theorem members_eq_ok {p : Parser (List Node)} (h : members g p i = .ok ((inner, ns), k))
    (hk : k.stray = none) : Encloses g i inner (MemberNodes p · ns) := by
  obtain ⟨⟨_, parts⟩, _, hparts, h⟩ := bind_eq_ok_iff.mp h
  cases h
  obtain ⟨opened, closed, content, rest, j, hi, hinner, l, hruns, hl⟩ := enclosed_eq_ok hparts hk
  exact ⟨opened, closed, content, rest, j, hi, hinner, parts, l, untilEnd_eq_ok hruns, hl, rfl⟩

/-! ## Items -/

/-- Behind the head of an item: a semicolon, where the item is `bare`, or braces, where `item` makes it
of their attributes and of nodes that `P` holds of. -/
inductive Bodied (g : Grammar) (item : Attributes → List Node → List Node) (bare : List Node)
    (P : Input → List Node → Prop) (i : Input) : List Node → Prop where
  | semicolon : Token.areMarks [';'] i.rest = true → Bodied g item bare P i bare
  | braces {inner : Attributes} {nodes : List Node} :
      Encloses g i inner (P · nodes) → Bodied g item bare P i (item inner nodes)

section Functions

variable {item : Attributes → List Node → List Node}

theorem behindSignature_eq_ok (h : behindSignature (ofDepth (depth + 1)) item i = .ok (ns, k))
    (hk : k.stray = none) :
    Bodied (ofDepth (depth + 1)) item [] (StatementNodes (ofDepth depth)) i ns := by
  obtain ⟨found, j, hfound, h⟩ := bind_eq_ok_iff.mp h
  rw [accept_eq] at hfound
  split at hfound
  · cases hfound
    cases h
    exact .semicolon ‹_›
  · cases hfound
    obtain ⟨⟨inner, nodes⟩, _, hbody, h⟩ := bind_eq_ok_iff.mp h
    cases h
    exact .braces (body_eq_ok hbody hk)

/-- A function with a body is one item, and holds what its attributes, its signature and all statements
of its body hold. -/
theorem functionItem_eq_ok (h : functionItem (ofDepth (depth + 1)) attributes i = .ok (ns, k))
    (hk : k.stray = none) :
    ∃ v s j l, visibility i = .ok (v, j) ∧ signature (ofDepth (depth + 1)) false j = .ok (s, l) ∧
      Bodied (ofDepth (depth + 1))
        (fun inner nodes => namedItem (.function s.params) (s.name, s.line) v (attributes ++ inner)
          (s.nodes ++ nodes)) [] (StatementNodes (ofDepth depth)) l ns := by
  obtain ⟨v, j, hv, h⟩ := bind_eq_ok_iff.mp h
  obtain ⟨s, l, hs, h⟩ := bind_eq_ok_iff.mp h
  exact ⟨v, s, j, l, hv, hs, behindSignature_eq_ok h hk⟩

theorem method_eq_ok (h : method (ofDepth (depth + 1)) attributes i = .ok (ns, k))
    (hk : k.stray = none) :
    ∃ v s isDefault i₁ i₂ i₃, visibility i = .ok (v, i₁) ∧
      acceptWord "default" i₁ = .ok (isDefault, i₂) ∧
      signature (ofDepth (depth + 1)) false i₂ = .ok (s, i₃) ∧
      Bodied (ofDepth (depth + 1))
        (fun inner nodes => namedItem (.method s.params) (s.name, s.line) v (attributes ++ inner)
          (s.nodes ++ nodes)) [] (StatementNodes (ofDepth depth)) i₃ ns := by
  obtain ⟨v, i₁, hv, h⟩ := bind_eq_ok_iff.mp h
  obtain ⟨isDefault, i₂, hdefault, h⟩ := bind_eq_ok_iff.mp h
  obtain ⟨s, i₃, hs, h⟩ := bind_eq_ok_iff.mp h
  exact ⟨v, s, isDefault, i₁, i₂, i₃, hv, hdefault, hs, behindSignature_eq_ok h hk⟩

/-- A function of a trait is an item with or without a body. -/
theorem traitFunction_eq_ok (h : traitFunction (ofDepth (depth + 1)) attributes i = .ok (ns, k))
    (hk : k.stray = none) :
    ∃ s j, signature (ofDepth (depth + 1)) false i = .ok (s, j) ∧
      Bodied (ofDepth (depth + 1))
        (fun inner nodes => otherItem (attributes ++ inner) (s.nodes ++ nodes))
        (otherItem attributes s.nodes) (StatementNodes (ofDepth depth)) j ns := by
  obtain ⟨s, j, hs, h⟩ := bind_eq_ok_iff.mp h
  refine ⟨s, j, hs, ?_⟩
  obtain ⟨found, j', hfound, h⟩ := bind_eq_ok_iff.mp h
  cases hfound
  split at h
  · obtain ⟨⟨inner, nodes⟩, _, hbody, h⟩ := bind_eq_ok_iff.mp h
    cases h
    exact .braces (body_eq_ok hbody hk)
  · obtain ⟨_, _, hend, h⟩ := bind_eq_ok_iff.mp h
    cases h
    exact .semicolon (expect_eq_ok hend)

end Functions

/-- A module with braces holds all items between them. -/
theorem moduleItem_eq_ok (h : moduleItem g attributes i = .ok (ns, k)) (hk : k.stray = none) :
    ∃ v n j, moduleHead i = .ok ((v, n), j) ∧
      Bodied g (fun inner nodes => namedItem .module n v (attributes ++ inner) nodes)
        (namedItem .module n v attributes []) (MemberNodes (attributedItem g)) j ns := by
  obtain ⟨⟨v, n⟩, j, hhead, h⟩ := bind_eq_ok_iff.mp h
  refine ⟨v, n, j, hhead, ?_⟩
  obtain ⟨found, j', hfound, h⟩ := bind_eq_ok_iff.mp h
  rw [accept_eq] at hfound
  split at hfound
  · cases hfound
    cases h
    exact .semicolon ‹_›
  · cases hfound
    obtain ⟨⟨inner, nodes⟩, _, hmembers, h⟩ := bind_eq_ok_iff.mp h
    cases h
    exact .braces (members_eq_ok hmembers hk)

/-- An implementation holds all its members, unless it is kept as tokens only. -/
theorem implBlock_eq_ok (h : implBlock g attributes i = .ok (ns, k)) (hk : k.stray = none) :
    ∃ head j inner nodes, implHead g i = .ok (head, j) ∧
      Encloses g j inner (MemberNodes (implMember g) · nodes) ∧
      ns = if head.verbatim then [] else
        otherItem (attributes ++ inner) (head.nodes ++ nodes) := by
  obtain ⟨head, j, hhead, h⟩ := bind_eq_ok_iff.mp h
  obtain ⟨⟨inner, nodes⟩, _, hmembers, h⟩ := bind_eq_ok_iff.mp h
  cases h
  exact ⟨head, j, inner, nodes, hhead, members_eq_ok hmembers hk, rfl⟩

end Grammar

/-! ## Files -/

/-- The outline of a file is that of its attributes and of all its items. -/
theorem outlineOfTokens_eq_ok {ts : List Token} {ns : List Node} (h : outlineOfTokens ts = .ok ns) :
    ∃ inner nodes j, let g := Grammar.ofDepth (Grammar.depthFor ts)
      Grammar.innerAttributes g ⟨ts, ts.length, 1, none⟩ = .ok (inner, j) ∧
      Grammar.MemberNodes (Grammar.attributedItem g) j nodes ∧ ns = inner.nodes ++ nodes := by
  rw [outlineOfTokens] at h
  split at h
  · cases h
  · rename_i ms behind hfile
    split at h
    · cases h
    · rename_i hnone
      cases h
      obtain ⟨inner, j, hinner, hfile⟩ := bind_eq_ok_iff.mp hfile
      obtain ⟨parts, _, hparts, hfile⟩ := bind_eq_ok_iff.mp hfile
      cases hfile
      have hend : behind.rest = [] := List.head?_eq_none_iff.mp
        (Option.map_eq_none_iff.mp (Option.or_eq_none_iff.mp hnone).2)
      have hitems : Grammar.MemberNodes _ j parts.flatten :=
        ⟨parts, behind, untilEnd_eq_ok hparts, hend, rfl⟩
      exact ⟨inner, parts.flatten, j, hinner, hitems, rfl⟩

end WindowedLsb.Lint
