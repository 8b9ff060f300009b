/-!
Powers of two, which bound the words of a given width.
-/

namespace WindowedLsb

/-- How many numbers fit `k` bits. -/
def twoPow (k : Nat) : Nat := Nat.pow 2 k

end WindowedLsb
