import WindowedLsb.Config
import WindowedLsb.Json.Decode

/-!
The JSON form of counters, shifts, header fields and window parameters: how each is written, and
what is read as one.
-/

namespace WindowedLsb

open Json

/-! ## Writing -/

/-- A reading is written as its number. -/
def Counter.Reading.json {c : Counter} (r : Counter.Reading c) : String := toString r.toNat

/-- A shift that has no number is written as its name. -/
def Shift.json : Shift → String
  | fixed p => "\x7b\"Fixed\":" ++ toString p.toInt ++ "\x7d"
  | rtpSequenceNumber => "\"RtpSequenceNumber\""
  | rtpTimestamp => "\"RtpTimestamp\""

def HeaderField.name : HeaderField → String
  | rtpSequenceNumber => "RtpSequenceNumber"
  | rtpTimestamp => "RtpTimestamp"
  | ipId => "IpId"
  | sequenceNumber => "SequenceNumber"

def HeaderField.json (f : HeaderField) : String := "\"" ++ f.name ++ "\""

/-- Window parameters are written in a fixed order, without blanks. -/
def Config.json (c : Config) : String :=
  "\x7b\"max_bits\":" ++ toString c.maxBits.toNat ++ ",\"window_width\":" ++
    toString c.width.toNat ++ ",\"shift\":" ++ c.shift.json ++ "\x7d"

/-! ## Reading -/

/-- An unsigned integer of the given number of bits; `type` is its name in messages. -/
def decodeWord (type : String) (bits : Nat) : Decoder Nat := fun d => do
  return (← decodeInt type 0 (twoPow bits - 1) d).toNat

/-- A reading is read like a plain integer of its counter's width. -/
def Counter.Reading.decode (c : Counter) : Decoder (Counter.Reading c) := fun d => do
  return .ofNat c (← decodeWord s!"u{c.bits}" c.bits d)

def Shift.variants : List (String × Variant Shift) :=
  [("Fixed", .content fun d => do
      return .fixed (Int32.ofInt (← decodeInt "i32" (-twoPow 31) (twoPow 31 - 1) d))),
    ("RtpSequenceNumber", .plain .rtpSequenceNumber), ("RtpTimestamp", .plain .rtpTimestamp)]

def Shift.decode : Decoder Shift := decodeVariant Shift.variants

def HeaderField.all : List HeaderField :=
  [.rtpSequenceNumber, .rtpTimestamp, .ipId, .sequenceNumber]

def HeaderField.decode : Decoder HeaderField :=
  decodeVariant (HeaderField.all.map fun f => (f.name, .plain f))

namespace Config

def decodeMaxBits : Decoder UInt8 := fun d => do return UInt8.ofNat (← decodeWord "u8" 8 d)

def decodeWidth : Decoder UInt64 := fun d => do return UInt64.ofNat (← decodeWord "usize" 64 d)

/-- The parameters met so far. -/
structure Draft where
  maxBits : Option UInt8 := none
  width : Option UInt64 := none
  shift : Option Shift := none

namespace Draft

/-- A parameter that must not have been met before. -/
def fresh {α : Type} (met : Option α) (name : String) : Except Problem Unit :=
  if met.isSome then .error (.duplicateField name) else .ok ()

/-- Takes in a member. One of an unknown name is passed over, so that its value is never asked
for. -/
def add (p : Draft) (name : String) (d : Document) : Except Problem Draft :=
  match name with
  | "max_bits" => do
      fresh p.maxBits name
      return { p with maxBits := some (← decodeMaxBits d) }
  | "window_width" => do
      fresh p.width name
      return { p with width := some (← decodeWidth d) }
  | "shift" => do
      fresh p.shift name
      return { p with shift := some (← Shift.decode d) }
  | _ => do
      d.pass
      return p

/-- Takes in members, of which every key must be a string. -/
def addAll (p : Draft) : List (Document × Document) → Except Problem Draft
  | [] => .ok p
  | (.string reading _, d) :: rest => do
      let name ← lift reading
      (← p.add name d).addAll rest
  | _ :: _ => .error (.text .malformed)

/-- The parameters, all of which must have been met. -/
def finish (p : Draft) : Except Problem Config :=
  match p.maxBits, p.width, p.shift with
  | none, _, _ => .error (.missingField "max_bits")
  | some _, none, _ => .error (.missingField "window_width")
  | some _, some _, none => .error (.missingField "shift")
  | some maxBits, some width, some shift => .ok ⟨maxBits, width, shift⟩

end Draft

/-- The problem of a list that stops after `length` of the three parameters. -/
def tooShort (length : Nat) (close : Close) : Problem :=
  match close.fault? with
  | some f => .text f
  | none => .wrongLength length "struct WlsbConfig with 3 elements"

/-- Window parameters: an object with a member for each, or a list of the three in their order. -/
def decode : Decoder Config
  | .object members close => do
      let p ← Draft.addAll {} members
      match close.fault? with
      | some f => .error (.text f)
      | none => p.finish
  | .array [] close => .error (tooShort 0 close)
  | .array (a :: rest) close => do
      let maxBits ← decodeMaxBits a
      match rest with
      | [] => .error (tooShort 1 close)
      | b :: rest => do
          let width ← decodeWidth b
          match rest with
          | [] => .error (tooShort 2 close)
          | c :: rest => do
              let shift ← Shift.decode c
              match rest, close with
              | [], .closed => .ok ⟨maxBits, width, shift⟩
              | [], .ended => .error (.text .ended)
              | _, _ => .error (.text .malformed)
  | d => .error (d.mismatch "struct WlsbConfig")

end Config
end WindowedLsb
