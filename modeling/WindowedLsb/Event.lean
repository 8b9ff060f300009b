import WindowedLsb.Counter
import WindowedLsb.Interval

/-!
Events that a window reports about itself, and the names and texts under which their data is
recorded.
-/

namespace WindowedLsb

inductive Event where
  /-- A window was made. -/
  | created (maxBits : UInt8) (capacity : Nat) (shift : Shift)
  /-- A full window gave up the reference with this packet number. -/
  | evicted (number : UInt32)
  /-- An acknowledged packet number was not held. -/
  | unknown (sn : SequenceNumber)
  /-- An acknowledgment found its reference at a position and removed it with all older ones. -/
  | compacted (position removed oldest next : Nat)
  deriving DecidableEq

namespace Event

inductive Level where
  | trace
  | debug
  deriving DecidableEq

def Level.text : Level → String
  | trace => "TRACE"
  | debug => "DEBUG"

/-- Making a window is worth a debug event; all else happens packet by packet. -/
def level : Event → Level
  | created .. => .debug
  | evicted _ | unknown _ | compacted .. => .trace

def message : Event → String
  | created .. => "created W-LSB window"
  | evicted _ => "W-LSB window full, evicting oldest reference"
  | unknown _ => "acknowledged SN not in W-LSB window"
  | compacted .. => "W-LSB window compacted after acknowledgment"

/-- The data of the event as named texts. -/
def data : Event → List (String × String)
  | created maxBits capacity shift =>
      [("max_bits", toString maxBits), ("capacity", toString capacity),
        ("shift_parameter", shift.text)]
  | evicted number => [("evicted_sn", toString number)]
  | unknown sn => [("sequence_number", sn.text)]
  | compacted position removed oldest next =>
      [("index", toString position), ("removed", toString removed),
        ("oldest_index", toString oldest), ("next_index", toString next)]

/-- Everything recorded for the event, the message included. -/
def fields (e : Event) : List (String × String) := ("message", e.message) :: e.data

end Event
end WindowedLsb
