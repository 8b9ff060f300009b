import WindowedLsb.Lint.Token

/-!
Parsers over token trees. A parser reads the tokens between two brackets, or of a file; its only
failure is the line of the token at which it stopped, and where the tokens run out that of the
closing bracket. Tokens that a finished parser leaves between brackets are reported at the end, if
nothing else is wrong.
-/

namespace WindowedLsb.Lint

structure Input where
  rest : List Token
  /-- How many tokens stand between the brackets, those already read included. -/
  width : Nat
  /-- The line to blame when the tokens run out. -/
  endLine : Nat
  /-- The line of the first token left over between brackets. -/
  stray : Option Nat

def Input.line (i : Input) : Nat :=
  match i.rest with
  | t :: _ => t.line
  | [] => i.endLine

abbrev Parser := StateT Input (Except Nat)

/-! ## Looking at tokens -/

namespace Token

/-- Punctuation written without gaps. What follows it may join on. -/
def areMarks : List Char → List Token → Bool
  | [], _ => true
  | [c], mark d _ _ :: _ => c = d
  | c :: cs, mark d joint _ :: ts => c = d && joint && areMarks cs ts
  | _ :: _, _ => false

def isWord (w : String) : List Token → Bool
  | word name _ :: _ => name == w
  | _ => false

def isAnyWord : List Token → Bool
  | word .. :: _ => true
  | _ => false

/-- Words that are no names. -/
def keywords : List String :=
  ["_", "abstract", "as", "async", "await", "become", "box", "break", "const", "continue", "crate",
    "do", "dyn", "else", "enum", "extern", "false", "final", "fn", "for", "if", "impl", "in", "let",
    "loop", "macro", "match", "mod", "move", "mut", "override", "priv", "pub", "ref", "return",
    "Self", "self", "static", "struct", "super", "trait", "true", "try", "type", "typeof", "unsafe",
    "unsized", "use", "virtual", "where", "while", "yield"]

def isName : List Token → Bool
  | word name _ :: _ => !keywords.contains name
  | _ => false

def isLifetime : List Token → Bool
  | lifetime .. :: _ => true
  | _ => false

def isGroup (d : Delimiter) : List Token → Bool
  | group e _ _ _ :: _ => d = e
  | _ => false

/-- A literal, a truth value, or a number with a minus sign. -/
def isLiteral : List Token → Bool
  | literal .. :: _ => true
  | word name _ :: _ => name == "true" || name == "false"
  | mark '-' _ _ :: literal (.integer ..) _ :: _ => true
  | mark '-' _ _ :: literal (.float _) _ :: _ => true
  | _ => false

def isText : List Token → Bool
  | literal .text _ :: _ => true
  | _ => false

mutual

/-- How many tokens a token holds, itself included. -/
def count : Token → Nat
  | group _ _ _ content => countAll content + 1
  | word .. | lifetime .. | mark .. | literal .. => 1

def countAll : List Token → Nat
  | [] => 0
  | t :: ts => t.count + countAll ts

end

end Token

namespace Parser

variable {α : Type}

def fail : Parser α := fun i => .error i.line

def failAt (line : Nat) : Parser α := fun _ => .error line

def ahead (test : List Token → Bool) : Parser Bool := do return test (← get).rest

def atEnd : Parser Bool := ahead List.isEmpty

def sees (marks : String) : Parser Bool := ahead (Token.areMarks marks.toList)

def seesWord (w : String) : Parser Bool := ahead (Token.isWord w)

def seesName : Parser Bool := ahead Token.isName

def seesGroup (d : Delimiter) : Parser Bool := ahead (Token.isGroup d)

def seesLifetime : Parser Bool := ahead Token.isLifetime

/-- Reads with `p` and then goes back; `none` if `p` fails. -/
def tryAhead (p : Parser α) : Parser (Option α) := fun i =>
  match p i with
  | .ok (a, _) => .ok (some a, i)
  | .error _ => .ok (none, i)

/-- Reads with `p`; if it fails, nothing has been read. -/
def attempt (p : Parser α) : Parser (Option α) := fun i =>
  match p i with
  | .ok (a, j) => .ok (some a, j)
  | .error _ => .ok (none, i)

/-! ## Taking tokens -/

def skip (n : Nat) : Parser Unit := modify fun i => { i with rest := i.rest.drop n }

def takeIf (test : List Token → Bool) : Parser Unit := do
  if ← ahead test then skip 1 else fail

def expect (marks : String) : Parser Unit := do
  if ← sees marks then skip marks.length else fail

/-- Takes punctuation if it comes next, and says whether it did. -/
def accept (marks : String) : Parser Bool := do
  if ← sees marks then
    skip marks.length
    return true
  else return false

/-- What `p` reads behind a mark; nothing without the mark. -/
def announced (marks : String) (p : Parser (List α)) : Parser (List α) := do
  if ← accept marks then p else return []

/-- Takes something only where it is allowed, and says whether it did. -/
def allowing (allowed : Bool) (p : Parser Bool) : Parser Bool :=
  if allowed then p else return false

def expectWord (w : String) : Parser Unit := takeIf (Token.isWord w)

def acceptWord (w : String) : Parser Bool := do
  if ← seesWord w then
    skip 1
    return true
  else return false

/-- Takes any word, keywords included, with its line. -/
def anyWord : Parser (String × Nat) := do
  match (← get).rest with
  | .word name line :: _ =>
      skip 1
      return (name, line)
  | _ => fail

/-- Takes a name, which is no keyword, with its line. -/
def name : Parser (String × Nat) := do
  if ← seesName then anyWord else fail

def lifetime : Parser Unit := takeIf Token.isLifetime

def acceptLifetime : Parser Bool := do
  if ← seesLifetime then
    skip 1
    return true
  else return false

def literal : Parser Unit := do
  if ← ahead Token.isLiteral then
    if ← sees "-" then skip 2 else skip 1
  else fail

/-- Takes brackets and reads what stands between them with `p`. Besides the result it gives the line
of the first token left over, which is for `noteStray`. -/
def openGroup (d : Delimiter) (p : Parser α) : Parser (α × Option Nat) := fun i =>
  match i.rest with
  | .group e _ closed content :: rest =>
      if d = e then
        match p ⟨content, content.length, closed, i.stray⟩ with
        | .ok (a, j) =>
            .ok ((a, j.rest.head?.map Token.line), { i with rest := rest, stray := j.stray })
        | .error line => .error line
      else .error i.line
  | _ => .error i.line

/-- Notes the line of a token left over, of which only the first noted counts. -/
def noteStray (left : Option Nat) : Parser Unit :=
  modify fun i => { i with stray := i.stray.or left }

/-- Takes brackets and reads what stands between them with `p`. -/
def group (d : Delimiter) (p : Parser α) : Parser α := do
  let (a, left) ← openGroup d p
  noteStray left
  return a

def anyGroup : Parser (Delimiter × List Token) := do
  match (← get).rest with
  | .group d _ _ content :: _ =>
      skip 1
      return (d, content)
  | _ => fail

/-- Whether the last of the tokens taken since those to come were the given ones is a pair of
braces. -/
def tookBraces (since : List Token) : Parser Bool := do
  let taken := since.take (since.length - (← get).rest.length)
  return Token.isGroup .brace taken.getLast?.toList

/-! ## Repetition

Every round takes a token, so that the tokens between the brackets bound the number of rounds. -/

/-- One round more than there are tokens between the brackets. -/
def maxRounds : Parser Nat := return (← get).width + 1

def rounds (more : Parser Bool) (p : Parser α) : (steps : Nat) → Parser (List α)
  | 0 => return []
  | steps + 1 => do
      if ← more then
        let a ← p
        return a :: (← rounds more p steps)
      else return []

def repeatWhile (more : Parser Bool) (p : Parser α) : Parser (List α) := do
  rounds more p (← maxRounds)

def untilEnd (p : Parser α) : Parser (List α) := repeatWhile (return !(← atEnd)) p

def separatedRounds (separator : String) (stop : Parser Bool) (p : Parser α) :
    (steps : Nat) → Parser (List α)
  | 0 => return []
  | steps + 1 => do
      if ← stop then return []
      let a ← p
      if ← stop then return [a]
      expect separator
      return a :: (← separatedRounds separator stop p steps)

/-- Reads with `p`, separators between, until `stop` holds; the last may have a separator too. -/
def separated (separator : String) (stop : Parser Bool) (p : Parser α) : Parser (List α) := do
  separatedRounds separator stop p (← maxRounds)

def listed (p : Parser α) : Parser (List α) := separated "," atEnd p

def listedRounds (p : Parser (α × Bool)) : (steps : Nat) → Parser (List α)
  | 0 => return []
  | steps + 1 => do
      if ← atEnd then return []
      let (a, last) ← p
      if last || (← atEnd) then return [a]
      expect ","
      return a :: (← listedRounds p steps)

/-- Reads with `p`, commas between, until the tokens run out or `p` says that nothing may follow. -/
def listedUntil (p : Parser (α × Bool)) : Parser (List α) := do
  listedRounds p (← maxRounds)

def joinedRounds (separator : String) (stop : Parser Bool) (p : Parser α) :
    (steps : Nat) → Parser (List α)
  | 0 => return []
  | steps + 1 => do
      if ← stop then return []
      let a ← p
      if ← accept separator then return a :: (← joinedRounds separator stop p steps)
      else return [a]

/-- Reads with `p` as long as separators follow; behind one, `stop` may end it too. -/
def joined (separator : String) (stop : Parser Bool) (p : Parser α) : Parser (List α) := do
  joinedRounds separator stop p (← maxRounds)

end Parser
end WindowedLsb.Lint
