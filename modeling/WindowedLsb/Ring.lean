import WindowedLsb.Counter
import WindowedLsb.Event

/-!
The ring in which a window keeps its references. Slots are reused in turn: insertion writes at one
cursor, acknowledgment and eviction advance the other, and a freed slot keeps its old numbers. The
references held are the run of used slots that starts at the oldest cursor.
-/

namespace WindowedLsb

/-- A place for one reference: the packet number it was recorded under and its value. -/
structure Slot where
  number : UInt32
  value : UInt32
  used : Bool
  deriving DecidableEq

instance : Inhabited Slot := ⟨⟨0, 0, false⟩⟩

/-- The slot no longer holds a reference, though its numbers stay. -/
def Slot.free (s : Slot) : Slot := { s with used := false }

/-- The slots, the cursor of the oldest reference and the cursor of the next insertion. -/
structure Ring where
  slots : Array Slot
  oldest : Nat
  next : Nat
  deriving DecidableEq

namespace Ring

/-- A ring of `capacity` empty slots. -/
def empty (capacity : Nat) : Ring := ⟨Array.replicate capacity default, 0, 0⟩

def capacity (r : Ring) : Nat := r.slots.size

/-- The slot at a position; a position outside the ring reads as an empty slot. -/
def slot (r : Ring) (p : Nat) : Slot := r.slots.getD p default

def after (r : Ring) (p : Nat) : Nat := (p + 1) % r.capacity

/-- The position `i` steps after the oldest cursor. -/
def position (r : Ring) (i : Nat) : Nat := (r.oldest + i) % r.capacity

/-- All positions, once round from the oldest cursor. -/
def positions (r : Ring) : List Nat := (List.range r.capacity).map r.position

/-! ## Views -/

/-- The references held, oldest first: the walk from the oldest cursor up to the first gap. -/
def held (r : Ring) : List Slot := (r.positions.map r.slot).takeWhile Slot.used

def usedSlots (r : Ring) : List Slot := r.slots.toList.filter Slot.used

def size (r : Ring) : Nat := r.usedSlots.length

def isEmpty (r : Ring) : Bool := !r.slots.any Slot.used

def sum (r : Ring) : UInt64 := r.usedSlots.foldl (fun total s => total + s.value.toUInt64) 0

/-- The mean of the values in used slots, rounded down, and zero if there are none. -/
def mean (r : Ring) : UInt32 :=
  if r.isEmpty then 0 else (r.sum / UInt64.ofNat r.size).toUInt32

/-- The smallest and the largest value in used slots. -/
def bounds? (r : Ring) : Option (UInt32 × UInt32) :=
  match r.usedSlots.map Slot.value with
  | [] => none
  | v :: vs => some (vs.foldl min v, vs.foldl max v)

/-! ## Insertion -/

/-- Whether the next insertion overwrites a reference. -/
def isFull (r : Ring) : Bool := (r.slot r.next).used

/-- Records a value under a packet number; a full ring gives up its oldest reference. -/
def insert (r : Ring) (sn : SequenceNumber) (value : UInt32) : Ring where
  slots := r.slots.setIfInBounds r.next ⟨sn.toWord, value, true⟩
  oldest := if r.isFull then r.after r.oldest else r.oldest
  next := r.after r.next

/-- What an insertion reports: the packet number of the reference given up, if any. -/
def insertEvents (r : Ring) : List Event :=
  if r.isFull then [.evicted (r.slot r.oldest).number] else []

/-! ## Acknowledgment -/

/-- The position of the oldest reference recorded under a packet number. -/
def find? (r : Ring) (sn : SequenceNumber) : Option Nat :=
  r.positions.find? fun p => (r.slot p).used && (r.slot p).number == sn.toWord

/-- How many positions there are from the oldest cursor through `p`. -/
def span (r : Ring) (p : Nat) : Nat := (p + r.capacity - r.oldest) % r.capacity + 1

/-- The first unused position from `p` on, looking at no more than `steps` positions. -/
def gapFrom (r : Ring) (p : Nat) : (steps : Nat) → Nat
  | 0 => p
  | steps + 1 => if (r.slot p).used then r.gapFrom (r.after p) steps else p

/-- Frees the first `count` positions from the oldest cursor. -/
def freeFirst (r : Ring) (count : Nat) : Array Slot :=
  (List.range count).foldl (fun slots i => slots.modify (r.position i) Slot.free) r.slots

/-- Gives up the references from the oldest through the one at `p`, and sets the insertion cursor
to the gap behind those that stay. -/
def removeThrough (r : Ring) (p : Nat) : Ring :=
  let rest : Ring := ⟨r.freeFirst (r.span p), r.after p, r.next⟩
  { rest with next := rest.gapFrom rest.oldest rest.capacity }

/-- Gives up the oldest reference with the packet number and all older ones; a number that is not
held changes nothing. -/
def acknowledge (r : Ring) (sn : SequenceNumber) : Ring :=
  match r.find? sn with
  | some p => r.removeThrough p
  | none => r

def acknowledgeEvents (r : Ring) (sn : SequenceNumber) : List Event :=
  match r.find? sn with
  | some p =>
      let rest := r.removeThrough p
      [.compacted p (r.span p) rest.oldest rest.next]
  | none => [.unknown sn]

/-- An empty ring of the same capacity, with no old numbers left. -/
def clear (r : Ring) : Ring := empty r.capacity

/-! ## Runs -/

inductive Action where
  | insert (sn : SequenceNumber) (value : UInt32)
  | acknowledge (sn : SequenceNumber)
  | clear
  deriving DecidableEq

def act (r : Ring) : Action → Ring
  | .insert sn value => r.insert sn value
  | .acknowledge sn => r.acknowledge sn
  | .clear => r.clear

/-- What an action reports; clearing reports nothing. -/
def events (r : Ring) : Action → List Event
  | .insert .. => r.insertEvents
  | .acknowledge sn => r.acknowledgeEvents sn
  | .clear => []

def run (r : Ring) (actions : List Action) : Ring := actions.foldl act r

def runEvents (r : Ring) : List Action → List Event
  | [] => []
  | a :: rest => r.events a ++ (r.act a).runEvents rest

/-! ## The ring invariant -/

/-- Checks the cursors and that the used slots are one run, by counting: as many slots are used as
the walk from the oldest cursor meets before a gap. -/
def isSound (r : Ring) : Bool :=
  1 ≤ r.capacity && r.oldest < r.capacity && r.next < r.capacity &&
    r.held.length == r.size &&
    (if r.size == r.capacity then r.next == r.oldest else r.next == r.position r.size)

end Ring
end WindowedLsb
