import WindowedLsb.Bits

/-!
Counters read from packet headers: how wide each is, its wrapping addition, and the short text it
has in events. A reading always fits a 32-bit word, which is the form the windows keep.
-/

namespace WindowedLsb

/-- What a header counter counts. -/
inductive Counter where
  | sequenceNumber
  | timestamp
  | ipId
  deriving DecidableEq

namespace Counter

/-- Bits that the counter has in the header. -/
def bits : Counter → Nat
  | sequenceNumber => 16
  | timestamp => 32
  | ipId => 16

/-- The tag in front of a reading in text. -/
def tag : Counter → String
  | sequenceNumber => "SN"
  | timestamp => "TS"
  | ipId => "IP_ID"

theorem bits_le (c : Counter) : c.bits ≤ 32 := by cases c <;> decide

structure Reading (c : Counter) where
  val : BitVec c.bits
  deriving DecidableEq

namespace Reading

variable {c : Counter}

instance : Inhabited (Reading c) := ⟨⟨0⟩⟩

/-- The reading congruent to `n`. -/
def ofNat (c : Counter) (n : Nat) : Reading c := ⟨BitVec.ofNat c.bits n⟩

def toNat (r : Reading c) : Nat := r.val.toNat

/-- The reading as a 32-bit word. -/
def toWord (r : Reading c) : UInt32 := ⟨r.val.setWidth 32⟩

/-- Addition wraps at the counter's own width. -/
instance : Add (Reading c) := ⟨fun a b => ⟨a.val + b.val⟩⟩

instance : Ord (Reading c) := ⟨fun a b => compare a.toNat b.toNat⟩

def text (r : Reading c) : String := c.tag ++ toString r.toNat

theorem toNat_lt (r : Reading c) : r.toNat < twoPow c.bits := r.val.isLt

theorem toNat_ofNat {n : Nat} (h : n < twoPow c.bits) : (ofNat c n).toNat = n := by
  rw [ofNat, toNat, BitVec.toNat_ofNat]
  exact Nat.mod_eq_of_lt h

theorem toNat_add (a b : Reading c) : (a + b).toNat = (a.toNat + b.toNat) % twoPow c.bits :=
  BitVec.toNat_add ..

theorem ofNat_toNat (r : Reading c) : ofNat c r.toNat = r := by simp [ofNat, toNat]

theorem toNat_toWord (r : Reading c) : r.toWord.toNat = r.toNat := by
  have h : r.val.toNat < 2 ^ 32 :=
    Nat.lt_of_lt_of_le r.val.isLt (Nat.pow_le_pow_right (by decide) c.bits_le)
  change (r.val.setWidth 32).toNat = _
  rw [BitVec.toNat_setWidth, Nat.mod_eq_of_lt h]
  rfl

theorem toNat_inj {a b : Reading c} : a.toNat = b.toNat ↔ a = b := by
  refine ⟨fun h => ?_, fun h => h ▸ rfl⟩
  rw [← ofNat_toNat a, h, ofNat_toNat]

theorem toWord_inj {a b : Reading c} : a.toWord = b.toWord ↔ a = b := by
  rw [← UInt32.toNat_inj, toNat_toWord, toNat_toWord, toNat_inj]

end Reading
end Counter

/-- The number of a packet, under which its header values are recorded. -/
abbrev SequenceNumber := Counter.Reading .sequenceNumber

end WindowedLsb
