/-!
What can go wrong in building a window or coding a value, and the text that says so.
-/

namespace WindowedLsb

/-- A fault names the parameter or field it concerns. -/
inductive Error where
  /-- There is no room for a window of that many slots. -/
  | allocation (capacity : Nat)
  /-- A parameter of a window is out of range. -/
  | config (parameter description : String)
  /-- A width was asked of a window that holds no reference. -/
  | noReference
  /-- A value cannot be coded in, or read from, the low bits given. -/
  | lowBits (field description : String)
  deriving DecidableEq

namespace Error

def message : Error → String
  | allocation capacity => s!"Cannot allocate W-LSB window with {capacity} slots"
  | config parameter description =>
      "Invalid W-LSB configuration for '" ++ parameter ++ "': " ++ description
  | noReference => "No reference value available in W-LSB window"
  | lowBits field description =>
      "Invalid LSB operation for field '" ++ field ++ "': " ++ description

end Error
end WindowedLsb
