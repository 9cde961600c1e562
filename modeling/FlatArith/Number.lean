import FlatArith.Decimal.Positional

/-!
# The text of a number

A finite float is written with the fewest decimal digits that identify it, positionally at any size, and
with a minus sign when its sign bit is set; negative zero keeps its sign.  The infinities have names, and
every float that is not a number has the same one.
-/

namespace FlatArith.Number

open Binary64

/-- The text of a nonnegative value, given by its place on the scale. -/
def magnitudeText (place : Nat) : List Char :=
  if place = 0 then ['0']
  else if place = infinityPlace then ['i', 'n', 'f']
  else (Decimal.shortest place).positional

/-- The text of a float. -/
def text (x : Float) : String :=
  if x.isNaN then "NaN"
  else
    let magnitude := magnitudeText (place x)
    String.ofList (if isNegative x then '-' :: magnitude else magnitude)

theorem text_of_isNaN {x : Float} (h : x.isNaN = true) : text x = "NaN" := by
  rw [text, if_pos h]

end FlatArith.Number
