import WindowedLsb.Json.Document

/-!
Reading of a JSON text into a document. Reading never fails: where the text stops being JSON the
document says so and the rest of the text is dropped.
-/

namespace WindowedLsb.Json

/-- What separates the parts of a text. -/
def isBlank (c : Char) : Bool := c == ' ' || c == '\t' || c == '\n' || c == '\r'

def skipBlanks (cs : List Char) : List Char := cs.dropWhile isBlank

/-- The fault of finding these characters instead of what must come. -/
def faultAt : List Char → Fault
  | [] => .ended
  | _ :: _ => .malformed

/-! ## Words and numbers -/

/-- Goes past the given word; at its first missing letter, the fault of what stands there. -/
def expectWord : (word cs : List Char) → Except Fault (List Char)
  | [], cs => .ok cs
  | w :: ws, c :: cs => if c = w then expectWord ws cs else .error .malformed
  | _ :: _, [] => .error .ended

def takeDigits (cs : List Char) : List Char × List Char := cs.span Char.isDigit

/-- The digits in front, of which there must be one. -/
def takeSomeDigits (cs : List Char) : Except Fault (List Char × List Char) :=
  match takeDigits cs with
  | ([], rest) => .error (faultAt rest)
  | (d :: ds, rest) => .ok (d :: ds, rest)

def takeSign (cs : List Char) : Bool × List Char :=
  match cs with
  | '-' :: rest => (true, rest)
  | '+' :: rest => (false, rest)
  | _ => (false, cs)

/-- The digits before the point: a zero stands alone. -/
def takeWhole (cs : List Char) : Except Fault (List Char × List Char) := do
  let (ds, rest) ← takeSomeDigits cs
  match ds with
  | '0' :: _ :: _ => .error .malformed
  | _ => .ok (ds, rest)

def takeFraction (cs : List Char) : Except Fault (Option (List Char) × List Char) :=
  match cs with
  | '.' :: cs => do
      let (ds, rest) ← takeSomeDigits cs
      return (some ds, rest)
  | _ => .ok (none, cs)

def takeExponent (cs : List Char) : Except Fault (Option (Bool × List Char) × List Char) :=
  match cs with
  | 'e' :: cs | 'E' :: cs => do
      let (negative, cs) := takeSign cs
      let (ds, rest) ← takeSomeDigits cs
      return (some (negative, ds), rest)
  | _ => .ok (none, cs)

def takeNumeral (cs : List Char) : Except Fault (Numeral × List Char) := do
  let (negative, cs) := match cs with
    | '-' :: rest => (true, rest)
    | _ => (false, cs)
  let (whole, cs) ← takeWhole cs
  let (fraction, cs) ← takeFraction cs
  let (exponent, cs) ← takeExponent cs
  return (⟨negative, whole, fraction, exponent⟩, cs)

/-! ## Strings -/

def hexDigit? (c : Char) : Option Nat :=
  if c.isDigit then some (c.toNat - '0'.toNat)
  else if 'a' ≤ c ∧ c ≤ 'f' then some (c.toNat - 'a'.toNat + 10)
  else if 'A' ≤ c ∧ c ≤ 'F' then some (c.toNat - 'A'.toNat + 10)
  else none

/-- The code unit that four hexadecimal digits name. With fewer than four bytes left the text counts
as ended, whatever they are. -/
def takeUnit (cs : List Char) : Except Fault (Nat × List Char) :=
  match cs with
  | a :: b :: c :: d :: rest =>
      match hexDigit? a, hexDigit? b, hexDigit? c, hexDigit? d with
      | some a, some b, some c, some d => .ok (((a * 16 + b) * 16 + c) * 16 + d, rest)
      | _, _, _, _ => .error .malformed
  | _ => .error (if (String.ofList cs).utf8ByteSize < 4 then .ended else .malformed)

def escaped? : Char → Option Char
  | '"' => some '"'
  | '\\' => some '\\'
  | '/' => some '/'
  | 'b' => some '\x08'
  | 'f' => some '\x0c'
  | 'n' => some '\n'
  | 'r' => some '\r'
  | 't' => some '\t'
  | _ => none

/-- One step in a string, behind the opening quote. -/
inductive Piece where
  | close (rest : List Char)
  | char (c : Char) (rest : List Char)
  /-- A numbered code unit. -/
  | unit (u : Nat) (rest : List Char)
  | fault (f : Fault)

def takePiece : List Char → Piece
  | [] => .fault .ended
  | '"' :: rest => .close rest
  | '\\' :: 'u' :: rest =>
      match takeUnit rest with
      | .ok (u, rest) => .unit u rest
      | .error f => .fault f
  | ['\\'] => .fault .ended
  | '\\' :: c :: rest =>
      match escaped? c with
      | some c => .char c rest
      | none => .fault .malformed
  | c :: rest => if c.val < 0x20 then .fault .malformed else .char c rest

def isLeading (u : Nat) : Bool := 0xD800 ≤ u && u < 0xDC00

def isTrailing (u : Nat) : Bool := 0xDC00 ≤ u && u < 0xE000

/-- The trailing half that must follow a leading half, and the rest. -/
def takeTrailing (cs : List Char) : Except Fault (Nat × List Char) :=
  match cs with
  | '\\' :: 'u' :: rest => do
      let (u, rest) ← takeUnit rest
      if isTrailing u then .ok (u, rest) else .error .malformed
  | [] | ['\\'] => .error .ended
  | _ => .error .malformed

/-- The character of a code unit, a leading half being joined with the trailing half behind it. -/
def takeCharacter (u : Nat) (cs : List Char) : Except Fault (Char × List Char) :=
  if isTrailing u then .error .malformed
  else if isLeading u then do
    let (v, rest) ← takeTrailing cs
    return (Char.ofNat (0x10000 + (u - 0xD800) * 0x400 + (v - 0xDC00)), rest)
  else .ok (Char.ofNat u, cs)

/-- Reads a string behind its opening quote: the text, or the first fault. Each piece takes a
character, so that as many steps as there are characters are enough. -/
def readContent : (steps : Nat) → List Char → (text : List Char) → Except Fault String
  | 0, _, _ => .error .ended
  | steps + 1, cs, text =>
      match takePiece cs with
      | .close _ => .ok (String.ofList text.reverse)
      | .char c rest => readContent steps rest (c :: text)
      | .unit u rest =>
          match takeCharacter u rest with
          | .ok (c, rest) => readContent steps rest (c :: text)
          | .error f => .error f
      | .fault f => .error f

/-- Passes over a string behind its opening quote, not asking what its escapes name. -/
def passContent : (steps : Nat) → List Char → Except Fault (List Char)
  | 0, _ => .error .ended
  | steps + 1, cs =>
      match takePiece cs with
      | .close rest => .ok rest
      | .char _ rest | .unit _ rest => passContent steps rest
      | .fault f => .error f

def readString (cs : List Char) : Document × List Char :=
  let reading := readContent (cs.length + 1) cs []
  match passContent (cs.length + 1) cs with
  | .ok rest => (.string reading none, rest)
  | .error passing => (.string reading (some passing), [])

/-! ## Values -/

/-- The document for a word such as `null`, behind its first letter. -/
def readWord (word : List Char) (d : Document) (cs : List Char) : Document × List Char :=
  match expectWord word cs with
  | .ok rest => (d, rest)
  | .error f => (.fault f, [])

/-- A number. One who passes over a number that stops short finds no JSON there; one who reads it
finds that the text has ended. -/
def readNumber (cs : List Char) : Document × List Char :=
  match takeNumeral cs with
  | .ok (n, rest) => (.number n, rest)
  | .error f => (.broken f .malformed, [])

inductive Separator where
  | comma (rest : List Char)
  | close (rest : List Char)
  | none (how : Close)

def takeSeparator (bracket : Char) (cs : List Char) : Separator :=
  match skipBlanks cs with
  | [] => .none .ended
  | c :: rest =>
      if c = ',' then .comma rest else if c = bracket then .close rest else .none .malformed

mutual

/-- The value at the head of the text and what follows it. The depth bounds how far values may be
nested; a text cannot nest them deeper than it is long. -/
def readValue : (depth : Nat) → List Char → Document × List Char
  | 0, _ => (.fault .malformed, [])
  | depth + 1, cs =>
      match skipBlanks cs with
      | [] => (.absent, [])
      | 'n' :: rest => readWord ['u', 'l', 'l'] .null rest
      | 't' :: rest => readWord ['r', 'u', 'e'] (.bool true) rest
      | 'f' :: rest => readWord ['a', 'l', 's', 'e'] (.bool false) rest
      | '"' :: rest => readString rest
      | '[' :: rest =>
          let (elements, close, rest) := match skipBlanks rest with
            | [] => ([], .ended, [])
            | ']' :: rest => ([], .closed, rest)
            | rest => readElements depth rest
          (.array elements close, rest)
      | '\x7b' :: rest =>
          let (members, close, rest) := match skipBlanks rest with
            | [] => ([], .ended, [])
            | '\x7d' :: rest => ([], .closed, rest)
            | rest => readMembers depth rest
          (.object members close, rest)
      | c :: rest =>
          if c = '-' ∨ c.isDigit then readNumber (c :: rest) else (.fault .malformed, [])

def readElements : (depth : Nat) → List Char → List Document × Close × List Char
  | 0, _ => ([], .malformed, [])
  | depth + 1, cs =>
      let (element, rest) := readValue depth cs
      match takeSeparator ']' rest with
      | .none how => ([element], how, [])
      | .close rest => ([element], .closed, rest)
      | .comma rest =>
          match skipBlanks rest with
          | [] => ([element], .endedAfterComma, [])
          | ']' :: _ => ([element], .malformed, [])
          | rest =>
              let (elements, close, rest) := readElements depth rest
              (element :: elements, close, rest)

/-- The members of an object from a place where one is due. What stands in the place of a key and is
no string is kept as the key of a last member. -/
def readMembers : (depth : Nat) → List Char → List (Document × Document) × Close × List Char
  | 0, _ => ([], .malformed, [])
  | depth + 1, cs =>
      let (key, rest) := readValue depth cs
      match key with
      | .string .. =>
          match skipBlanks rest with
          | ':' :: rest =>
              let (value, rest) := readValue depth rest
              match takeSeparator '\x7d' rest with
              | .none how => ([(key, value)], how, [])
              | .close rest => ([(key, value)], .closed, rest)
              | .comma rest =>
                  match skipBlanks rest with
                  | [] => ([(key, value)], .endedAfterComma, [])
                  | '\x7d' :: _ => ([(key, value)], .malformed, [])
                  | rest =>
                      let (members, close, rest) := readMembers depth rest
                      ((key, value) :: members, close, rest)
          | rest => ([(key, .fault (faultAt rest))], .malformed, [])
      | _ => ([(key, .fault .malformed)], .malformed, [])

end

/-- The document of a whole text, and what follows it. -/
def read (text : String) : Document × List Char :=
  let cs := text.toList
  readValue (2 * cs.length + 2) cs

end WindowedLsb.Json
