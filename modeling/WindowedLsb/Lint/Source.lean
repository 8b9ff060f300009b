import WindowedLsb.Text.Identifier

/-!
Source text as a list of characters, each with the number of the line it stands in, and the parts of
it that are no tokens: blanks and comments.
-/

namespace WindowedLsb.Lint

/-- A character and its line, counted from one. -/
structure Mark where
  char : Char
  line : Nat
  deriving DecidableEq

abbrev Source := List Mark

namespace Source

/-- Numbers the characters of a text, the first of which stands in the given line. -/
def number (line : Nat) : List Char → Source
  | [] => []
  | c :: cs => ⟨c, line⟩ :: number (if c = '\n' then line + 1 else line) cs

def ofString (text : String) : Source := number 1 text.toList

/-- What follows the given characters, if the source starts with them. -/
def after? : List Char → Source → Option Source
  | [], s => some s
  | c :: cs, m :: s => if m.char = c then after? cs s else none
  | _ :: _, [] => none

def starts (cs : List Char) (s : Source) : Bool := (s.after? cs).isSome

def headIs (p : Char → Bool) : Source → Bool
  | m :: _ => p m.char
  | [] => false

def takeChars (p : Char → Bool) (s : Source) : List Char × Source :=
  ((s.takeWhile fun m => p m.char).map Mark.char, s.dropWhile fun m => p m.char)

/-! ## Blanks -/

/-- White space, and the two marks that set the direction of writing. -/
def isBlank (c : Char) : Bool :=
  c == ' ' || (0x09 ≤ c.val && c.val ≤ 0x0d) || c.val == 0x85 || c.val == 0xa0 ||
    c.val == 0x1680 || (0x2000 ≤ c.val && c.val ≤ 0x200a) || c.val == 0x200e || c.val == 0x200f ||
    c.val == 0x2028 || c.val == 0x2029 || c.val == 0x202f || c.val == 0x205f || c.val == 0x3000

/-! ## Comments -/

/-- The rest of the line, and what follows it; a carriage return in front of the line feed belongs
to neither. -/
def takeLine : Source → List Char × Source
  | [] => ([], [])
  | [m] => if m.char = '\n' then ([], [m]) else ([m.char], [])
  | m :: n :: s =>
      if m.char = '\n' then ([], m :: n :: s)
      else if m.char = '\r' ∧ n.char = '\n' then ([], n :: s)
      else
        let (line, rest) := takeLine (n :: s)
        (m.char :: line, rest)

/-- The rest of a comment in which `depth` comments are open, up to the end of the outermost. -/
def takeNested : (depth : Nat) → Source → Option (List Char × Source)
  | _, [] | _, [_] => none
  | depth, m :: n :: s =>
      if m.char = '/' ∧ n.char = '*' then
        (takeNested (depth + 1) s).map fun (text, rest) => ('/' :: '*' :: text, rest)
      else if m.char = '*' ∧ n.char = '/' then
        if depth ≤ 1 then some ([], s)
        else (takeNested (depth - 1) s).map fun (text, rest) => ('*' :: '/' :: text, rest)
      else (takeNested depth (n :: s)).map fun (text, rest) => (m.char :: text, rest)

/-- The inside of a comment between slash-star and star-slash, and what follows it; `none` if it
does not end. -/
def takeBlock (s : Source) : Option (List Char × Source) :=
  (s.after? ['/', '*']).bind (takeNested 1)

/-- Whether a line comment that documents nothing stands here. -/
def startsPlainLine (s : Source) : Bool :=
  s.starts ['/', '/'] && (!s.starts ['/', '/', '/'] || s.starts ['/', '/', '/', '/']) &&
    !s.starts ['/', '/', '!']

/-- Whether a block comment that documents nothing stands here. -/
def startsPlainBlock (s : Source) : Bool :=
  s.starts ['/', '*', '*', '/'] ||
    (s.starts ['/', '*'] && (!s.starts ['/', '*', '*'] || s.starts ['/', '*', '*', '*']) &&
      !s.starts ['/', '*', '!'])

/-- Skips blanks and plain comments; a comment that does not end stays. One step goes over a blank
or a comment, so that as many steps as there are characters are enough. -/
def skipSteps : (steps : Nat) → Source → Source
  | 0, s => s
  | _, [] => []
  | steps + 1, m :: s =>
      if startsPlainLine (m :: s) then skipSteps steps (takeLine (m :: s)).2
      else if startsPlainBlock (m :: s) then
        match takeBlock (m :: s) with
        | some (_, rest) => skipSteps steps rest
        | none => m :: s
      else if isBlank m.char then skipSteps steps s
      else m :: s

def skip (s : Source) : Source := skipSteps s.length s

/-- A comment that documents what it is attached to. -/
structure DocComment where
  /-- It documents the item it stands in, rather than the next one. -/
  inner : Bool
  text : List Char

/-- The documenting comment that stands here, and what follows it. -/
def takeDoc (s : Source) : Option (DocComment × Source) :=
  if s.starts ['/', '/', '!'] then
    let (text, rest) := takeLine (s.drop 3)
    some (⟨true, text⟩, rest)
  else if s.starts ['/', '*', '!'] then
    (takeBlock s).map fun (text, rest) => (⟨true, text.drop 1⟩, rest)
  else if s.starts ['/', '/', '/'] then
    if s.starts ['/', '/', '/', '/'] then none
    else
      let (text, rest) := takeLine (s.drop 3)
      some (⟨false, text⟩, rest)
  else if s.starts ['/', '*', '*'] && !s.starts ['/', '*', '*', '*'] then
    (takeBlock s).map fun (text, rest) => (⟨false, text.drop 1⟩, rest)
  else none

end Source

/-- Whether every carriage return in a text stands in front of a line feed. -/
def returnsPaired : List Char → Bool
  | [] => true
  | ['\r'] => false
  | '\r' :: c :: cs => c == '\n' && returnsPaired cs
  | _ :: cs => returnsPaired cs

end WindowedLsb.Lint
