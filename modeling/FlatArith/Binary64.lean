/-!
# The nonnegative binary64 values as a scale

The bits of a finite nonnegative binary64 value, read as a number, count its place among these values:
`0` is zero, `1` the least positive value, and so on up to the place of infinity.  Every value is a whole
multiple of the least positive one, 2^-1074.  `units` gives that multiple.

The scale has the same parity as the significand: an even place holds an even significand.
-/

namespace FlatArith.Binary64

/-- The place of infinity, one past the place of the greatest finite value. -/
def infinityPlace : Nat := 0x7FF0000000000000

/-- The weight of the sign bit among the bits of a float. -/
def signWeight : Nat := 0x8000000000000000

/-- The number of places from one power of two to the next, 2^52. -/
def binade : Nat := 0x10000000000000

/-- The number of units in the value one. -/
def unitsInOne : Nat := Nat.pow 2 1074

/-- The place of a float's absolute value on the scale: its bits without the sign bit. -/
def place (x : Float) : Nat :=
  x.toBits.toNat % signWeight

/-- Whether the sign bit of a float is set. -/
def isNegative (x : Float) : Bool :=
  signWeight ≤ x.toBits.toNat

/-- The value at a place, in units of 2^-1074.  In the first two binades neighbours are one unit apart;
from then on the gap doubles with every binade. -/
def units (place : Nat) : Nat :=
  if place < binade then place
  else (binade + place % binade) * Nat.pow 2 (place / binade - 1)

end FlatArith.Binary64
