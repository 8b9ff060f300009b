/-!
A JSON text as far as it goes. A document keeps every fault at the place where a reader meets it, so
that whoever walks it in text order finds the first fault of what it looks at, and does not see the
faults of what it passes over.
-/

namespace WindowedLsb.Json

inductive Fault where
  /-- The text ends inside a value. -/
  | ended
  /-- What stands there is not JSON. -/
  | malformed
  deriving DecidableEq

/-- A number as it is written: its sign, the digits before the point, those behind it, and the sign
and digits of the exponent. -/
structure Numeral where
  negative : Bool
  whole : List Char
  fraction : Option (List Char)
  exponent : Option (Bool × List Char)
  deriving DecidableEq

/-- How a list of elements or members stops. -/
inductive Close where
  | closed
  | ended
  /-- The text ends behind a comma. -/
  | endedAfterComma
  /-- Neither a comma nor the closing bracket follows, or the bracket follows a comma. -/
  | malformed
  deriving DecidableEq

/-- The fault, if any, of one who expects a further element. -/
def Close.fault? : Close → Option Fault
  | closed => none
  | ended | endedAfterComma => some .ended
  | malformed => some .malformed

/-- A value with all the faults of its text. A member is a key and a value; only a string can be a
key, and anything else is kept to say what it was. -/
inductive Document where
  | null
  | bool (b : Bool)
  | number (n : Numeral)
  /-- The text, or the first fault met in reading it, and the fault of one who passes over it and
  does not ask what its escapes name. -/
  | string (reading : Except Fault String) (passing : Option Fault)
  | array (elements : List Document) (close : Close)
  | object (members : List (Document × Document)) (close : Close)
  /-- The text ends where a value is due. -/
  | absent
  /-- What is there is no value: the fault of one who reads it, and that of one who passes over
  it. -/
  | broken (reading passing : Fault)

namespace Document

/-- A fault that reader and passer-by meet alike. -/
abbrev fault (f : Fault) : Document := broken f f

end Document
end WindowedLsb.Json
