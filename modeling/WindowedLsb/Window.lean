import WindowedLsb.Coding
import WindowedLsb.Ring

/-!
The sender's window over one header field. It keeps the references that the receiver may hold and
finds how many low bits of a new value suffice whichever of them the receiver uses.
-/

namespace WindowedLsb

/-- The references of one header field and the rule by which its values are coded. -/
structure Window where
  ring : Ring
  /-- Width of the field, and the fallback when fewer bits will not do. -/
  maxBits : UInt8
  shift : Shift
  interval : IntervalFunction

/-! ## Creation -/

inductive Window.Fault where
  /-- The field is wider than a word, or has no bits at all. -/
  | badWidth (maxBits : UInt8)
  | noSlots
  /-- More slots than memory has room for. -/
  | tooManySlots (capacity : Nat)

def Window.Fault.toError : Window.Fault → Error
  | badWidth n => .config "max_bits" s!"must be between 1 and {wordBits}, got {n}"
  | noSlots => .config "capacity" "window must hold at least one reference"
  | tooManySlots capacity => .allocation capacity

/-- Bytes that one slot takes. -/
def Slot.bytes : Nat := 12

/-- The memory that slots are kept in: which requests for bytes it grants. -/
structure Memory where
  grants : Nat → Bool
  /-- A request is turned down if a signed word of 64 bits cannot count its bytes. -/
  lt_of_grants {bytes : Nat} : grants bytes → bytes < twoPow 63

namespace Window

/-- Whether the parameters of a window are in range: its width first, then its slots. -/
def checkRange (maxBits : UInt8) (capacity : Nat) : Except Fault Unit :=
  if maxBits = 0 ∨ maxBits > wordBits then .error (.badWidth maxBits)
  else if capacity = 0 then .error .noSlots
  else .ok ()

def checkRoom (memory : Memory) (capacity : Nat) : Except Fault Unit :=
  if memory.grants (capacity * Slot.bytes) then .ok () else .error (.tooManySlots capacity)

/-- An empty window, if the parameters are in range and there is room for the slots. -/
def create (memory : Memory) (maxBits : UInt8) (capacity : Nat) (shift : Shift)
    (interval : IntervalFunction) : Except Error Window :=
  match checkRange maxBits capacity, checkRoom memory capacity with
  | .error f, _ | _, .error f => .error f.toError
  | .ok (), .ok () => .ok ⟨.empty capacity, maxBits, shift, interval⟩

def createEvents (w : Window) : List Event := [.created w.maxBits w.ring.capacity w.shift]

def act (w : Window) (a : Ring.Action) : Window := { w with ring := w.ring.act a }

def run (w : Window) (actions : List Ring.Action) : Window := actions.foldl act w

/-! ## Width search -/

/-- The first width from `lo` up to but excluding `hi` that is enough, or else `hi`. -/
def firstWidth (lo hi : UInt8) (enough : UInt8 → Bool) : UInt8 :=
  (((List.range' lo.toNat (hi.toNat - lo.toNat)).map UInt8.ofNat).find? enough).getD hi

/-- Whether `k` low bits of `v` can be read against a reference, without wrapping. -/
def covers (w : Window) (ref : UInt32) (k : UInt8) (v : UInt32) : Bool :=
  (w.interval ref k w.shift).covers ref v

/-- The least width at which one reference covers the value. -/
def widthFor (w : Window) (ref v : UInt32) : UInt8 :=
  firstWidth 0 w.maxBits fun k => w.covers ref k v

/-- The least width at which both references cover the value. No smaller width than that of either
alone can do, and a width that does for both may still be larger, as coverage can lapse when the
width grows. -/
def widthForBoth (w : Window) (a b v : UInt32) : UInt8 :=
  firstWidth (max (w.widthFor a v) (w.widthFor b v)) w.maxBits fun k =>
    w.covers a k v && w.covers b k v

/-- The number of low bits that suffice for every reference held. Only the smallest and the largest
are looked at: the references that cover a value lie next to each other. -/
def width? (w : Window) (v : UInt32) : Except Error UInt8 :=
  match w.ring.bounds? with
  | none => .error .noReference
  | some (a, b) => .ok (w.widthForBoth a b v)

/-- The number of low bits to send, which is all of them while no reference is held. -/
def requiredBits (w : Window) (v : UInt32) : UInt8 :=
  match w.ring.bounds? with
  | none => w.maxBits
  | some (a, b) => w.widthForBoth a b v

/-! ## Transmission -/

/-- What is sent for a value, and what a receiver makes of it against each reference held. -/
structure Transmission where
  k : UInt8
  bits : UInt32
  readings : List (Except Error UInt32)

/-- Codes a value at the width the window asks for and reads it back against every reference. -/
def transmit (w : Window) (v : UInt32) : Except Error Transmission := do
  let k ← w.width? v
  let bits ← encode v k
  return ⟨k, bits, w.ring.held.map fun s => decodeWith w.interval bits s.value k w.shift⟩

end Window
end WindowedLsb
