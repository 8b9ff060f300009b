import WindowedLsb.Lint.Source
import WindowedLsb.Lint.Token

/-!
Literals in source code. Every reader here takes the source at the start of a literal and gives what
follows it; where it gives nothing there is no literal of its kind.
-/

namespace WindowedLsb.Lint

namespace Source

/-! ## Names -/

/-- A name without a raw mark. -/
def takeName (s : Source) : Option (List Char × Source) :=
  if s.headIs Text.isIdentifierStart then some (s.takeChars Text.isIdentifierContinue) else none

/-- Skips the type written behind a literal, if any. -/
def skipSuffix (s : Source) : Source :=
  match s.takeName with
  | some (_, rest) => rest
  | none => s

/-! ## Quoted text -/

def isHex (c : Char) : Bool := c.isDigit || ('a' ≤ c && c ≤ 'f') || ('A' ≤ c && c ≤ 'F')

def hexValue (c : Char) : Nat :=
  if c.isDigit then c.toNat - '0'.toNat
  else if 'a' ≤ c then c.toNat - 'a'.toNat + 10
  else c.toNat - 'A'.toNat + 10

/-- What may stand in a quoted text. -/
structure Quoting where
  /-- Only characters of one byte; escapes by code point are not allowed, and escapes by two digits
  may name any byte. -/
  bytes : Bool
  /-- The character zero may stand in it. -/
  zero : Bool

/-- Between which characters a reader of quoted text is. -/
inductive QuoteState where
  | plain
  /-- Behind a carriage return. -/
  | afterReturn
  /-- Behind a backslash. -/
  | escape
  /-- Behind the mark of a two-digit escape. -/
  | firstDigit
  | secondDigit (first : Nat)
  /-- Behind the mark of an escape by code point. -/
  | openBrace
  | codePoint (digits value : Nat)
  /-- Behind a backslash at the end of a line, where blanks are skipped. -/
  | margin
  /-- The same, behind a carriage return. -/
  | marginReturn
  deriving DecidableEq

inductive QuoteStep where
  | next (state : QuoteState)
  | close
  | reject

/-- The state behind a character that no escape concerns. -/
def Quoting.plainStep (q : Quoting) (c : Char) : QuoteStep :=
  if c = '"' then .close
  else if c = '\r' then .next .afterReturn
  else if c = '\\' then .next .escape
  else if c = '\x00' ∧ !q.zero then .reject
  else if q.bytes ∧ c.val ≥ 0x80 then .reject
  else .next .plain

/-- The state behind the character that follows a backslash. -/
def Quoting.escapeStep (q : Quoting) (c : Char) : QuoteStep :=
  if c = 'x' then .next .firstDigit
  else if c = 'u' ∧ !q.bytes then .next .openBrace
  else if c = '0' ∧ !q.zero then .reject
  else if c ∈ ['n', 'r', 't', '\\', '\'', '"', '0'] then .next .plain
  else if c = '\n' then .next .margin
  else if c = '\r' then .next .marginReturn
  else .reject

/-- The state behind a character of an escape by code point. -/
def Quoting.codePointStep (q : Quoting) (digits value : Nat) (c : Char) : QuoteStep :=
  if isHex c then
    if digits = 6 then .reject else .next (.codePoint (digits + 1) (16 * value + hexValue c))
  else if digits = 0 then .reject
  else if c = '_' then .next (.codePoint digits value)
  else if c = '\x7d' ∧ value.isValidChar ∧ (q.zero ∨ value ≠ 0) then .next .plain
  else .reject

def Quoting.step (q : Quoting) (state : QuoteState) (c : Char) : QuoteStep :=
  match state with
  | .plain => q.plainStep c
  | .afterReturn => if c = '\n' then .next .plain else .reject
  | .escape => q.escapeStep c
  | .firstDigit =>
      if isHex c ∧ (q.bytes ∨ !q.zero ∨ hexValue c < 8) then .next (.secondDigit (hexValue c))
      else .reject
  | .secondDigit first =>
      if isHex c ∧ (q.zero ∨ 0 < first ∨ 0 < hexValue c) then .next .plain else .reject
  | .openBrace => if c = '\x7b' then .next (.codePoint 0 0) else .reject
  | .codePoint digits value => q.codePointStep digits value c
  | .margin =>
      if c = ' ' ∨ c = '\t' ∨ c = '\n' then .next .margin
      else if c = '\r' then .next .marginReturn
      else q.plainStep c
  | .marginReturn => if c = '\n' then .next .margin else .reject

def takeQuoted (q : Quoting) : QuoteState → Source → Option Source
  | _, [] => none
  | state, m :: s =>
      match q.step state m.char with
      | .next state => takeQuoted q state s
      | .close => some s
      | .reject => none

/-- The rest behind one escape, which must not end the line. -/
def takeEscape (q : Quoting) : QuoteState → Source → Option Source
  | .plain, s => some s
  | .margin, _ | .marginReturn, _ => none
  | _, [] => none
  | state, m :: s =>
      match q.step state m.char with
      | .next state => takeEscape q state s
      | .close | .reject => none

/-! ## Raw text -/

/-- What follows the closing quote of raw text with as many hashes as the opening one has. -/
def takeRawText (q : Quoting) (hashes : List Char) : Source → Option Source
  | [] => none
  | [m] => if m.char = '"' ∧ hashes = [] then some [] else none
  | m :: n :: s =>
      if m.char = '"' then
        match after? hashes (n :: s) with
        | some rest => some rest
        | none => takeRawText q hashes (n :: s)
      else if m.char = '\r' then
        if n.char = '\n' then takeRawText q hashes s else none
      else if (m.char = '\x00' ∧ !q.zero) ∨ (q.bytes ∧ m.char.val ≥ 0x80) then none
      else takeRawText q hashes (n :: s)

def takeRaw (q : Quoting) (s : Source) : Option Source :=
  let (hashes, rest) := s.takeChars (· == '#')
  if hashes.length > 255 then none else (rest.after? ['"']).bind (takeRawText q hashes)

/-! ## Literals -/

def textQuoting : Quoting := ⟨false, true⟩

def byteQuoting : Quoting := ⟨true, true⟩

/-- Text that ends at a zero byte. -/
def zeroEndedQuoting : Quoting := ⟨false, false⟩

/-- A string whose marks in front are given: either it has escapes or it is raw. -/
def takeString (mark : List Char) (q : Quoting) (s : Source) : Option Source :=
  match s.after? (mark ++ ['"']) with
  | some rest => (takeQuoted q .plain rest).map skipSuffix
  | none => ((s.after? (mark ++ ['r'])).bind (takeRaw q)).map skipSuffix

/-- One character between single quotes, behind the opening one. -/
def takeQuotedChar (q : Quoting) (s : Source) : Option Source :=
  let rest := match s with
    | [] => none
    | m :: s =>
        if m.char = '\\' then takeEscape q .escape s
        else if q.bytes ∧ m.char.val ≥ 0x80 then none
        else some s
  ((rest.bind (after? ['\''])).map skipSuffix)

def takeChar (s : Source) : Option Source := (s.after? ['\'']).bind (takeQuotedChar textQuoting)

def takeByte (s : Source) : Option Source :=
  (s.after? ['b', '\'']).bind (takeQuotedChar byteQuoting)

/-! ## Numbers -/

def isDigitOrScore (c : Char) : Bool := c.isDigit || c == '_'

/-- The exponent of a number behind its letter: scores, one sign and digits, of which there must be
one. -/
def takeExponent (signed digits : Bool) : Source → Option (List Char × Source)
  | [] => if digits then some ([], []) else none
  | m :: s =>
      if m.char.isDigit then
        (takeExponent signed true s).map fun (cs, rest) => (m.char :: cs, rest)
      else if m.char = '_' then
        (takeExponent signed digits s).map fun (cs, rest) => (m.char :: cs, rest)
      else if (m.char = '+' ∨ m.char = '-') ∧ !digits then
        if signed then none
        else (takeExponent true digits s).map fun (cs, rest) => (m.char :: cs, rest)
      else if digits then some ([], m :: s)
      else none

def takeExponent? (s : Source) : Option (List Char × Source) :=
  match s with
  | m :: rest =>
      if m.char = 'e' ∨ m.char = 'E' then
        (takeExponent false false rest).map fun (cs, rest) => (m.char :: cs, rest)
      else none
  | [] => none

/-- The digits of a number with a point or an exponent. A point in front of a name or of another
point is no part of the number. -/
def takeFloatDigits (s : Source) : Option (List Char × Source) :=
  if !s.headIs Char.isDigit then none
  else
    let (whole, rest) := s.takeChars isDigitOrScore
    match rest.after? ['.'] with
    | some rest =>
        if rest.headIs fun c => c == '.' || Text.isIdentifierStart c then none
        else
          let (fraction, rest) := rest.takeChars isDigitOrScore
          let mantissa := whole ++ '.' :: fraction
          match rest.takeExponent? with
          | some (exponent, rest) => some (mantissa ++ exponent, rest)
          | none => some (mantissa, rest)
    | none => rest.takeExponent?.map fun (exponent, rest) => (whole ++ exponent, rest)

/-- A number ends where no letter or digit follows. -/
def endWord (s : Source) : Option Source :=
  if s.headIs Text.isIdentifierContinue then none else some s

def takeFloat (s : Source) : Option (Literal × Source) := do
  let (digits, rest) ← s.takeFloatDigits
  let written := digits ++ match rest.takeName with
    | some (suffix, _) => suffix
    | none => []
  let rest ← endWord rest.skipSuffix
  return (.float written, rest)

/-- The digits of an integer in a base. A decimal digit that is too large for the base is a fault, a
letter ends the number. -/
def takeDigits (base : Nat) : Source → Option (List Char × Source)
  | [] => some ([], [])
  | m :: s =>
      let c := m.char
      if c = '_' then takeDigits base s
      else if isHex c ∧ hexValue c < base then
        (takeDigits base s).map fun (ds, rest) => (c :: ds, rest)
      else if c.isDigit then none
      else some ([], m :: s)

def takeBase (s : Source) : Nat × Source :=
  match s.after? ['0', 'x'], s.after? ['0', 'o'], s.after? ['0', 'b'] with
  | some rest, _, _ => (16, rest)
  | _, some rest, _ => (8, rest)
  | _, _, some rest => (2, rest)
  | none, none, none => (10, s)

def takeInteger (s : Source) : Option (Literal × Source) := do
  let (base, rest) := s.takeBase
  if base = 10 ∧ rest.headIs (· == '_') then none
  let (digits, rest) ← takeDigits base rest
  if digits = [] then none
  let value := digits.foldl (fun n c => base * n + hexValue c) 0
  let end_ ← endWord rest.skipSuffix
  return (.integer value rest.takeName.isSome, end_)

/-- Stands for an error in code that was made by a program. -/
def errorLiteral : List Char := "(/*ERROR*/)".toList

/-- The literal that stands here, and what follows it. -/
def takeLiteral (s : Source) : Option (Literal × Source) :=
  ((s.takeString [] textQuoting).map (.text, ·)) <|>
    (((s.takeString ['b'] byteQuoting) <|> (s.takeString ['c'] zeroEndedQuoting) <|>
      s.takeByte <|> s.takeChar).map (.other, ·)) <|>
    s.takeFloat <|> s.takeInteger <|> ((s.after? errorLiteral).map (.other, ·))

end Source
end WindowedLsb.Lint
