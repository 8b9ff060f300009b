import WindowedLsb.Window

/-!
Parameters of a window, and the ones that suit the fields of an RTP/UDP/IPv4 flow.
-/

namespace WindowedLsb

/-- Header fields whose parameters are known. -/
inductive HeaderField where
  | rtpSequenceNumber
  | rtpTimestamp
  | ipId
  | sequenceNumber
  deriving DecidableEq

/-! ## Known parameters -/

/-- References kept unless asked otherwise. -/
def defaultWidth : UInt64 := 4

def rtpSequenceNumberBits : UInt8 := 16

def rtpTimestampBits : UInt8 := 32

def ipIdBits : UInt8 := 16

/-- The shift of a sequence number outside RTP, which only ever grows. -/
def sequenceNumberShift : Int32 := -1

def ipIdShift : Int32 := 0

structure Config where
  maxBits : UInt8
  /-- Number of references kept. -/
  width : UInt64
  shift : Shift
  deriving DecidableEq

namespace Config

/-- The parameters that suit a header field. -/
def ofField : HeaderField → Config
  | .rtpSequenceNumber => ⟨rtpSequenceNumberBits, defaultWidth, .rtpSequenceNumber⟩
  | .rtpTimestamp => ⟨rtpTimestampBits, defaultWidth, .rtpTimestamp⟩
  | .ipId => ⟨ipIdBits, defaultWidth, .fixed ipIdShift⟩
  | .sequenceNumber => ⟨rtpSequenceNumberBits, defaultWidth, .fixed sequenceNumberShift⟩

instance : Inhabited Config := ⟨ofField .rtpSequenceNumber⟩

def withWidth (c : Config) (width : UInt64) : Config := { c with width }

/-- Whether the parameters are in range; the room for the slots is not looked at. -/
def validate (c : Config) : Except Error Unit :=
  (Window.checkRange c.maxBits c.width.toNat).mapError Window.Fault.toError

/-- The window with these parameters, coded in the standard interval. -/
def window (memory : Memory) (c : Config) : Except Error Window :=
  Window.create memory c.maxBits c.width.toNat c.shift standardInterval

end Config
end WindowedLsb
