import WindowedLsb.Config

/-!
The windows of one compression context: packet number, timestamp and IP identification. Each packet
is recorded in all three under its number, and an acknowledgment of that number trims all three.
-/

namespace WindowedLsb

structure Packet where
  sn : SequenceNumber
  ts : Counter.Reading .timestamp
  ipId : Counter.Reading .ipId
  deriving DecidableEq

/-- A width for each of the three fields. -/
structure FieldBits where
  sn : UInt8
  ts : UInt8
  ipId : UInt8
  deriving DecidableEq

/-- The three windows of a context. -/
structure FieldWindows where
  sn : Window
  ts : Window
  ipId : Window

namespace FieldWindows

/-- Makes the three windows; the first that cannot be made decides the error. -/
def ofConfigs (memory : Memory) (sn ts ipId : Config) : Except Error FieldWindows := do
  return ⟨← sn.window memory, ← ts.window memory, ← ipId.window memory⟩

/-- The three windows with the parameters that suit an RTP flow, all of one width. -/
def create (memory : Memory) (width : UInt64) : Except Error FieldWindows :=
  ofConfigs memory ((Config.ofField .rtpSequenceNumber).withWidth width)
    ((Config.ofField .rtpTimestamp).withWidth width) ((Config.ofField .ipId).withWidth width)

inductive Action where
  | record (p : Packet)
  | acknowledge (sn : SequenceNumber)
  | clear
  deriving DecidableEq

/-- What an action on the context is for each of the windows. -/
def Action.split : Action → Ring.Action × Ring.Action × Ring.Action
  | record p =>
      (.insert p.sn p.sn.toWord, .insert p.sn p.ts.toWord, .insert p.sn p.ipId.toWord)
  | acknowledge sn => (.acknowledge sn, .acknowledge sn, .acknowledge sn)
  | clear => (.clear, .clear, .clear)

def act (w : FieldWindows) (a : Action) : FieldWindows :=
  let (sn, ts, ipId) := a.split
  ⟨w.sn.act sn, w.ts.act ts, w.ipId.act ipId⟩

def run (w : FieldWindows) (actions : List Action) : FieldWindows := actions.foldl act w

/-- The number of low bits to send of each field of a packet. -/
def requiredBits (w : FieldWindows) (p : Packet) : FieldBits :=
  ⟨w.sn.requiredBits p.sn.toWord, w.ts.requiredBits p.ts.toWord,
    w.ipId.requiredBits p.ipId.toWord⟩

end FieldWindows
end WindowedLsb
