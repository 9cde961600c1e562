import FlatArith.Binary64

/-!
# The shortest decimal that reads back

A decimal is read as the binary64 value nearest to it, an even place winning an exact tie.  So the
decimals that read back as a value are those between the two midpoints to its neighbours, the midpoints
included exactly when its place is even.

`shortest` looks for such a decimal on the grids 10^308, 10^307, and so on down to 10^-1074.  The
coarsest grid with a hit gives the fewest digits.  On a grid only the two neighbours of the value can be
the nearest hit; of two hits the nearer is taken, and the greater one if both are equally near.  The
last grid holds the value itself, so the search cannot fail.
-/

namespace FlatArith

/-- The decimal `digits * 10 ^ exponent`. -/
structure Decimal where
  digits : Nat
  exponent : Int
  deriving DecidableEq, Repr

namespace Decimal

open Binary64

/-- The power of ten above the fraction bar of `10 ^ exponent`. -/
def upscale (exponent : Int) : Nat :=
  Nat.pow 10 exponent.toNat

/-- The power of ten below the fraction bar of `10 ^ exponent`. -/
def downscale (exponent : Int) : Nat :=
  Nat.pow 10 (-exponent).toNat

/-- The decimal is read as the value at `place`: it lies between the midpoints to the neighbours of
that value, the midpoints included exactly for an even place. -/
def ReadsBack (d : Decimal) (place : Nat) : Prop :=
  let twice := 2 * d.digits * upscale d.exponent * unitsInOne
  let low := (units (place - 1) + units place) * downscale d.exponent
  let high := (units place + units (place + 1)) * downscale d.exponent
  if place % 2 = 0 then low ≤ twice ∧ twice ≤ high else low < twice ∧ twice < high

instance (d : Decimal) (place : Nat) : Decidable (d.ReadsBack place) := by
  unfold ReadsBack
  infer_instance

/-- The spacing of the grid `10 ^ exponent`, in the scale in which `floorOn` measures values. -/
def spacing (exponent : Int) : Nat :=
  unitsInOne * upscale exponent

/-- The greatest decimal of the grid `10 ^ exponent` that is at most the value at `place`. -/
def floorOn (place : Nat) (exponent : Int) : Decimal where
  digits := units place * downscale exponent / spacing exponent
  exponent := exponent

/-- The next decimal of the same grid. -/
def next (d : Decimal) : Decimal :=
  { d with digits := d.digits + 1 }

/-- Whether the value at `place` is nearer to its floor on the grid than to the decimal after it. -/
def nearerBelow (place : Nat) (exponent : Int) : Bool :=
  2 * (units place * downscale exponent) <
    (2 * (floorOn place exponent).digits + 1) * spacing exponent

/-- The decimal of the grid `10 ^ exponent` that reads back and is nearest to the value at `place`. -/
def nearestOn? (place : Nat) (exponent : Int) : Option Decimal :=
  let below := floorOn place exponent
  let above := below.next
  if below.ReadsBack place then
    if above.ReadsBack place ∧ nearerBelow place exponent = false then some above else some below
  else if above.ReadsBack place then some above
  else none

/-- The value at `place`, written out in full on the finest grid. -/
def exact (place : Nat) : Decimal where
  digits := units place * Nat.pow 5 1074
  exponent := -1074

/-- The exponents of the grids, coarsest first. -/
def gridExponents : List Int :=
  (List.range 1383).map fun (step : Nat) => 308 - (step : Int)

/-- The shortest decimal that reads back as the value at `place`. -/
def shortest (place : Nat) : Decimal :=
  (gridExponents.findSome? (nearestOn? place)).getD (exact place)

theorem readsBack_of_nearestOn? {place : Nat} {exponent : Int} {d : Decimal}
    (h : nearestOn? place exponent = some d) : d.ReadsBack place := by
  simp only [nearestOn?] at h
  split at h
  · next hBelow =>
      split at h
      · next hAbove => cases h; exact hAbove.1
      · cases h; exact hBelow
  · split at h
    · next hAbove => cases h; exact hAbove
    · cases h

end Decimal

end FlatArith
