import FlatArith.Decimal.Shortest

/-!
# Positional writing

A decimal is written with its point in place and no exponent, however many zeros that takes.  A whole
number has neither a point nor a fraction; a number below one has a single zero before the point.
-/

namespace FlatArith.Decimal

/-- Digits with zeros in front, at least `width` of them. -/
def padLeft (width : Nat) (digits : List Char) : List Char :=
  List.replicate (width - digits.length) '0' ++ digits

/-- Digits with a point before the last `places` of them, and at least one digit before the point. -/
def withPoint (places : Nat) (digits : List Char) : List Char :=
  let padded := padLeft (places + 1) digits
  let whole := padded.length - places
  padded.take whole ++ '.' :: padded.drop whole

/-- The positional form of a decimal. -/
def positional (d : Decimal) : List Char :=
  let digits := Nat.toDigits 10 d.digits
  if 0 ≤ d.exponent then digits ++ List.replicate d.exponent.toNat '0'
  else withPoint (-d.exponent).toNat digits

end FlatArith.Decimal
