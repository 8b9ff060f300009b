import WindowedLsb.Json.Reader

/-!
JSON values as they are written, with all that can differ from text to text: the blanks between the
parts, the escapes in strings, the form of numbers. Each has a text, and a document that it stands
for.
-/

namespace WindowedLsb.Json

/-- Characters that separate the parts of a text. -/
abbrev Blanks := { cs : List Char // ∀ c ∈ cs, isBlank c = true }

def noBlanks : Blanks := ⟨[], nofun⟩

/-! ## Strings -/

structure HexDigit where
  char : Char
  value : Nat
  hexDigit?_char : hexDigit? char = some value

/-- Whether a character may stand for itself in a string. -/
def isPlain (c : Char) : Bool := c != '"' && c != '\\' && 0x20 ≤ c.val

theorem isPlain_iff {c : Char} : isPlain c = true ↔ c ≠ '"' ∧ c ≠ '\\' ∧ 0x20 ≤ c.val := by
  simp [isPlain, and_assoc]

/-- What a string is made of. -/
inductive Glyph where
  | plain (c : Char) (h : isPlain c = true)
  /-- A backslash and a letter, which name a character. -/
  | short (letter c : Char) (h : escaped? letter = some c)
  /-- A numbered code unit. -/
  | unit (a b c d : HexDigit)

namespace Glyph

def text : Glyph → List Char
  | plain c _ => [c]
  | short letter _ _ => ['\\', letter]
  | unit a b c d => ['\\', 'u', a.char, b.char, c.char, d.char]

/-- The number of a code unit. -/
def number (a b c d : HexDigit) : Nat := ((a.value * 16 + b.value) * 16 + c.value) * 16 + d.value

/-- The character of a leading and a trailing half. -/
def joined (u v : Nat) : Char := Char.ofNat (0x10000 + (u - 0xD800) * 0x400 + (v - 0xDC00))

/-- The characters named, unless half of one stands alone. -/
def chars? : List Glyph → Option (List Char)
  | [] => some []
  | plain c _ :: gs | short _ c _ :: gs => (chars? gs).map (c :: ·)
  | unit a b c d :: unit a' b' c' d' :: gs =>
      let u := number a b c d
      let v := number a' b' c' d'
      if isTrailing u then none
      else if isLeading u then
        if isTrailing v then (chars? gs).map (joined u v :: ·) else none
      else (chars? (unit a' b' c' d' :: gs)).map (Char.ofNat u :: ·)
  | unit a b c d :: gs =>
      let u := number a b c d
      if isTrailing u || isLeading u then none else (chars? gs).map (Char.ofNat u :: ·)

end Glyph

/-- The inside of a string. -/
abbrev Glyphs := List Glyph

namespace Glyphs

def text (gs : Glyphs) : List Char := gs.flatMap Glyph.text

/-- What a reader makes of the characters behind those that it has read, which come last first. -/
def spell (before : List Char) : Option (List Char) → Except Fault String
  | some cs => .ok (String.ofList (before.reverse ++ cs))
  | none => .error .malformed

/-- What a reader makes of the string. -/
def reading (gs : Glyphs) : Except Fault String := spell [] (Glyph.chars? gs)

def document (gs : Glyphs) : Document := .string gs.reading none

end Glyphs

/-! ## Numbers -/

abbrev Digits := { ds : List Char // ds ≠ [] ∧ ∀ c ∈ ds, c.isDigit = true }

/-- The exponent of a number. -/
structure Exponent where
  capital : Bool
  /-- Its sign, if it is written, and whether that is a minus. -/
  sign : Option Bool
  digits : Digits

namespace Exponent

def signText : Option Bool → List Char
  | none => []
  | some true => ['-']
  | some false => ['+']

def text (e : Exponent) : List Char :=
  (if e.capital then 'E' else 'e') :: (signText e.sign ++ e.digits.val)

end Exponent

structure Figure where
  negative : Bool
  whole : Digits
  /-- A zero stands alone. -/
  whole_zero : whole.val.head? = some '0' → whole.val = ['0']
  fraction : Option Digits
  exponent : Option Exponent

namespace Figure

def fractionText (f : Figure) : List Char := f.fraction.elim [] fun ds => '.' :: ds.val

def exponentText (f : Figure) : List Char := f.exponent.elim [] Exponent.text

def text (f : Figure) : List Char :=
  (if f.negative then ['-'] else []) ++ f.whole.val ++ f.fractionText ++ f.exponentText

def numeral (f : Figure) : Numeral :=
  ⟨f.negative, f.whole.val, f.fraction.map Subtype.val,
    f.exponent.map fun e => (e.sign.getD false, e.digits.val)⟩

end Figure

/-! ## Values -/

/-- Something with blanks around it. -/
structure Padded (α : Type) where
  before : Blanks
  inner : α
  after : Blanks

/-- A value as it is written. The blanks behind an opening bracket are for the case that nothing
else is in the brackets. -/
inductive Written where
  | null
  | bool (b : Bool)
  | number (f : Figure)
  | string (gs : Glyphs)
  | array (gap : Blanks) (elements : List (Padded Written))
  | object (gap : Blanks) (members : List (Padded Glyphs × Padded Written))

namespace Written

mutual

def text : Written → List Char
  | null => ['n', 'u', 'l', 'l']
  | bool true => ['t', 'r', 'u', 'e']
  | bool false => ['f', 'a', 'l', 's', 'e']
  | number f => f.text
  | string gs => '"' :: (gs.text ++ ['"'])
  | array gap es => '[' :: (gap.val ++ (textOfElements es ++ [']']))
  | object gap ms => '\x7b' :: (gap.val ++ (textOfMembers ms ++ ['\x7d']))

def textOfElements : List (Padded Written) → List Char
  | [] => []
  | ⟨before, v, after⟩ :: es =>
      before.val ++ (v.text ++ (after.val ++ if es.isEmpty then [] else ',' :: textOfElements es))

def textOfMembers : List (Padded Glyphs × Padded Written) → List Char
  | [] => []
  | (key, ⟨before, v, after⟩) :: ms =>
      key.before.val ++ ('"' :: (key.inner.text ++ ('"' :: (key.after.val ++ (':' ::
        (before.val ++ (v.text ++ (after.val ++
          if ms.isEmpty then [] else ',' :: textOfMembers ms))))))))

end

mutual

def document : Written → Document
  | null => .null
  | bool b => .bool b
  | number f => .number f.numeral
  | string gs => gs.document
  | array _ es => .array (documents es) .closed
  | object _ ms => .object (documentsOfMembers ms) .closed

def documents : List (Padded Written) → List Document
  | [] => []
  | ⟨_, v, _⟩ :: es => v.document :: documents es

def documentsOfMembers : List (Padded Glyphs × Padded Written) → List (Document × Document)
  | [] => []
  | (key, ⟨_, v, _⟩) :: ms => (key.inner.document, v.document) :: documentsOfMembers ms

end

end Written
end WindowedLsb.Json
