import WindowedLsb.Lint.Literal

/-!
Reading of source text into a tree of tokens. A documenting comment is read as the attribute that it
stands for. Where the text cannot be read, the answer is the line of the fault: that of an unmatched
bracket, or of the start of what is no token.
-/

namespace WindowedLsb.Lint

namespace Source

/-! ## Tokens -/

/-- Words that have a raw mark in front of them cannot be these. -/
def neverRaw : List String := ["_", "super", "self", "Self", "crate"]

def takeWord (s : Source) : Option (String × Source) :=
  match s.after? ['r', '#'] with
  | none => s.takeName.map fun (cs, rest) => (String.ofList cs, rest)
  | some rest =>
      match rest.takeName with
      | none => none
      | some (cs, rest) =>
          let name := String.ofList cs
          if name ∈ neverRaw then none else some ("r#" ++ name, rest)

/-- Starts of literals; where one of them is not the start of a whole literal it is no name
either. -/
def literalStarts : List (List Char) :=
  ["r\"", "r#\"", "r##", "b\"", "b'", "br\"", "br#", "c\"", "cr\"", "cr#"].map String.toList

def punctuation : List Char := "~!@#$%^&*-=+|;:,<.>/?'".toList

/-- Whether a punctuation character stands here; a slash that starts a comment is none. -/
def startsMark (s : Source) : Bool :=
  s.headIs punctuation.contains && !s.starts ['/', '/'] && !s.starts ['/', '*']

/-- What a single quote with a name behind it starts: a lifetime, or a mark of its own in front of a
literal that starts like the name. -/
def takeApostrophe (line : Nat) (s : Source) : Option (Token × Source) := do
  let behind ← s.after? ['\'']
  let (name, rest) ← behind.takeWord
  if rest.headIs (· == '\'') || (rest.headIs (· == '#') && !behind.starts ['r', '#']) then none
  else if behind.takeLiteral.isSome then some (.mark '\'' true line, behind)
  else if literalStarts.any behind.starts then none
  else some (.lifetime name line, rest)

/-- A token other than a bracket, and what follows it. -/
def takeToken (s : Source) : Option (Token × Source) :=
  match s with
  | [] => none
  | m :: rest =>
      match s.takeLiteral with
      | some (l, rest) => some (.literal l m.line, rest)
      | none =>
          if m.char = '\'' then s.takeApostrophe m.line
          else if s.startsMark then some (.mark m.char (startsMark rest) m.line, rest)
          else if literalStarts.any s.starts then none
          else s.takeWord.map fun (name, rest) => (.word name m.line, rest)

/-- The attribute that a documenting comment stands for. -/
def docTokens (d : DocComment) (line : Nat) : List Token :=
  let content : List Token := [.word "doc" line, .mark '=' false line, .literal .text line]
  .mark '#' false line ::
    ((if d.inner then [.mark '!' false line] else []) ++ [.group .bracket line line content])

/-! ## Brackets -/

def opens? : Char → Option Delimiter
  | '(' => some .paren
  | '[' => some .bracket
  | '\x7b' => some .brace
  | _ => none

def closes? : Char → Option Delimiter
  | ')' => some .paren
  | ']' => some .bracket
  | '\x7d' => some .brace
  | _ => none

/-- An open bracket, and the tokens in front of it in reverse. -/
structure Open where
  delimiter : Delimiter
  line : Nat
  before : List Token

/-- Reads tokens onto those already read, which are in reverse. Every step takes a character, so
that more steps than there are characters are enough; those left are enough to skip blanks too. -/
def lexSteps : (steps : Nat) → List Open → List Token → Source → Except Nat (List Token)
  | 0, _, _, _ => .error 1
  | steps + 1, stack, done, s =>
      match skipSteps steps s with
      | [] =>
          match stack with
          | [] => .ok done.reverse
          | o :: _ => .error o.line
      | m :: rest =>
          let s : Source := m :: rest
          match s.takeDoc with
          | some (d, behind) =>
              if returnsPaired d.text then
                lexSteps steps stack ((docTokens d m.line).reverse ++ done) behind
              else .error m.line
          | none =>
              match (if s.starts errorLiteral then none else opens? m.char), closes? m.char with
              | some d, _ => lexSteps steps (⟨d, m.line, done⟩ :: stack) [] rest
              | none, some d =>
                  match stack with
                  | o :: stack =>
                      if o.delimiter = d then
                        lexSteps steps stack (.group d o.line m.line done.reverse :: o.before) rest
                      else .error m.line
                  | [] => .error m.line
              | none, none =>
                  match s.takeToken with
                  | some (t, behind) => lexSteps steps stack (t :: done) behind
                  | none => .error m.line

def lex (s : Source) : Except Nat (List Token) := lexSteps (s.length + 1) [] [] s

/-! ## Files -/

def byteOrderMark : Char := '\ufeff'

def dropByteOrderMark : Source → Source
  | [] => []
  | m :: s => if m.char = byteOrderMark then s else m :: s

/-- Drops a first line that names an interpreter; an inner attribute starts the same way. -/
def dropInterpreter (s : Source) : Source :=
  match s.after? ['#', '!'] with
  | none => s
  | some rest => if rest.skip.headIs (· == '[') then s else s.dropWhile fun m => m.char ≠ '\n'

def lexFile (text : String) : Except Nat (List Token) :=
  lex (ofString text).dropByteOrderMark.dropInterpreter.dropByteOrderMark

end Source
end WindowedLsb.Lint
