import WindowedLsb.Error
import WindowedLsb.Interval

/-!
Coding of a value in its low bits. The sender keeps `k` bits; the receiver takes the first member
of the interpretation interval that ends in them.
-/

namespace WindowedLsb

/-- A word in hexadecimal, without leading zeros. -/
def hexText (w : UInt32) : String := "0x" ++ String.ofList (Nat.toDigits 16 w.toNat)

inductive CodingFault where
  /-- More bits were asked for than a word has. -/
  | tooWide (k : UInt8)
  /-- The received bits do not fit the width. -/
  | tooLarge (bits : UInt32) (k : UInt8)
  /-- No member of the interval ends in the received bits. -/
  | unresolved (interval : Interval) (bits ref : UInt32) (k : UInt8) (shift : Shift)

namespace CodingFault

/-- The field at fault: the width itself, or the bits received. -/
def field : CodingFault → String
  | tooWide _ => "num_lsb_bits"
  | tooLarge .. | unresolved .. => "received_lsbs"

def description : CodingFault → String
  | tooWide k => s!"Number of LSBs (k) cannot exceed {wordBits}, got {k}."
  | tooLarge bits k =>
      s!"Received LSB value {hexText bits} is too large for {k} LSBs " ++
        s!"(max value {hexText (lowMask k)})."
  | unresolved i bits ref k shift =>
      s!"Cannot be resolved in interpretation interval [{hexText i.lo}, {hexText i.hi}]. " ++
        s!"LSBs: {hexText bits}, ref: {hexText ref}, k: {k}, shift: {shift.text}."

def toError (f : CodingFault) : Error := .lowBits f.field f.description

end CodingFault

/-- The `k` low bits of a value. -/
def encode (v : UInt32) (k : UInt8) : Except Error UInt32 :=
  if k > wordBits then .error (CodingFault.tooWide k).toError else .ok (v &&& lowMask k)

/-- The first word, going up from the start of the interval, whose `k` low bits are `bits`. -/
def Interval.candidate (i : Interval) (bits : UInt32) (k : UInt8) : UInt32 :=
  i.lo + ((bits - i.lo) &&& lowMask k)

/-- Reads `k` received bits against a reference in the interval that `f` gives. -/
def decodeWith (f : IntervalFunction) (bits ref : UInt32) (k : UInt8) (shift : Shift) :
    Except Error UInt32 :=
  if k > wordBits then .error (CodingFault.tooWide k).toError
  else if bits &&& ~~~lowMask k ≠ 0 then .error (CodingFault.tooLarge bits k).toError
  else
    let i := f ref k shift
    let v := i.candidate bits k
    if i.contains v then .ok v else .error (CodingFault.unresolved i bits ref k shift).toError

def decode : (bits ref : UInt32) → (k : UInt8) → Shift → Except Error UInt32 :=
  decodeWith standardInterval

end WindowedLsb
