import WindowedLsb.Json.Number
import WindowedLsb.Json.Reader
import WindowedLsb.Text.Quoted

/-!
Typed values from documents. A decoder walks a document in text order and stops at the first
problem: a fault of the text, or a value of the wrong shape.
-/

namespace WindowedLsb.Json

/-- Why a text gives no value. -/
inductive Problem where
  | text (f : Fault)
  /-- There is JSON, but it has the wrong shape. -/
  | shape (message : String)
  deriving DecidableEq

abbrev Decoder (α : Type) := Document → Except Problem α

namespace Problem

def wrongType (found expected : String) : Problem :=
  .shape s!"invalid type: {found}, expected {expected}"

def outOfRange (n : Int) (expected : String) : Problem :=
  .shape s!"invalid value: integer `{n}`, expected {expected}"

def wrongLength (length : Nat) (expected : String) : Problem :=
  .shape s!"invalid length {length}, expected {expected}"

def missingField (name : String) : Problem := .shape s!"missing field `{name}`"

def duplicateField (name : String) : Problem := .shape s!"duplicate field `{name}`"

def unknownVariant (name : String) (known : List String) : Problem :=
  let list := ", ".intercalate (known.map fun k => s!"`{k}`")
  .shape s!"unknown variant `{name}`, expected one of {list}"

end Problem

def lift {α : Type} (x : Except Fault α) : Except Problem α := x.mapError .text

namespace Document

/-- The problem of a value that is of another kind than expected. -/
def mismatch (expected : String) : Document → Problem
  | null => .wrongType "null" expected
  | bool b => .wrongType s!"boolean `{b}`" expected
  | number n =>
      match n.number with
      | .ok n => .wrongType n.describe expected
      | .error f => .text f
  | string (.ok s) _ => .wrongType s!"string {Text.quoted s}" expected
  | string (.error f) _ => .text f
  | array .. => .wrongType "sequence" expected
  | object .. => .wrongType "map" expected
  | absent => .text .ended
  | broken f _ => .text f

/-! ## Passing over -/

mutual

/-- Passes over a value: the first fault met, if any. -/
def pass : Document → Except Problem Unit
  | null | bool _ | number _ | string _ none => .ok ()
  | string _ (some f) => .error (.text f)
  | array elements close => do passAll elements; passClose close
  | object members close => do passMembers members; passClose close
  | absent => .error (.text .ended)
  | broken _ f => .error (.text f)

def passAll : List Document → Except Problem Unit
  | [] => .ok ()
  | d :: ds => do d.pass; passAll ds

def passMembers : List (Document × Document) → Except Problem Unit
  | [] => .ok ()
  | (key, value) :: rest => do passKey key; value.pass; passMembers rest

/-- Only a string can be a key. -/
def passKey : Document → Except Problem Unit
  | string _ none => .ok ()
  | string _ (some f) => .error (.text f)
  | _ => .error (.text .malformed)

def passClose : Close → Except Problem Unit
  | .closed => .ok ()
  | .ended | .endedAfterComma => .error (.text .ended)
  | .malformed => .error (.text .malformed)

end

end Document

/-! ## Decoders -/

/-- An integer from `least` to `greatest`; `type` is its name in messages. -/
def decodeInt (type : String) (least greatest : Int) : Decoder Int
  | .number n => do
      match ← lift n.number with
      | .integer i =>
          if least ≤ i ∧ i ≤ greatest then .ok i else .error (.outOfRange i type)
      | .float x => .error (.wrongType (Number.float x).describe type)
  | d => .error (d.mismatch type)

/-- Nothing, written as `null`. -/
def decodeUnit : Decoder Unit
  | .null => .ok ()
  | d => .error (d.mismatch "unit")

/-- One alternative of a type: either it stands alone, or it has content. -/
inductive Variant (α : Type) where
  | plain (a : α)
  | content (decode : Decoder α)

namespace Variant

variable {α : Type}

/-- The value of an alternative that is given by its name alone. -/
def alone : Variant α → Except Problem α
  | plain a => .ok a
  | content _ => .error (.wrongType "unit variant" "newtype variant")

/-- The value of an alternative that is given as a name with content. -/
def applied (d : Document) : Variant α → Except Problem α
  | plain a => do decodeUnit d; return a
  | content decode => decode d

def find (variants : List (String × Variant α)) (name : String) : Except Problem (Variant α) :=
  match variants.lookup name with
  | some v => .ok v
  | none => .error (.unknownVariant name (variants.map Prod.fst))

/-- The alternative that the key of a member names. -/
def ofKey (variants : List (String × Variant α)) : Decoder (Variant α)
  | .string reading _ => do find variants (← lift reading)
  | d => .error (d.mismatch "variant identifier")

end Variant

/-- A value of a type that is one of several alternatives: its name, or an object whose only member
has the name for its key. -/
def decodeVariant {α : Type} (variants : List (String × Variant α)) : Decoder α
  | .string reading _ => do (← Variant.find variants (← lift reading)).alone
  | .absent | .object [] .ended => .error (.text .ended)
  | .object ((key, d) :: rest) close => do
      let variant ← Variant.ofKey variants key
      let a ← variant.applied d
      match rest, close with
      | [], .closed => .ok a
      | [], .ended => .error (.text .ended)
      | _, _ => .error (.text .malformed)
  | _ => .error (.text .malformed)

/-- The value of a whole text: nothing but blanks may follow it. -/
def decodeText {α : Type} (decode : Decoder α) (text : String) : Except Problem α := do
  let (d, rest) := read text
  let a ← decode d
  match skipBlanks rest with
  | [] => .ok a
  | _ :: _ => .error (.text .malformed)

end WindowedLsb.Json
