/-!
# Character classes as ranges of code points

A class of characters is a list of closed ranges of code points, ascending and apart.  A range is the
pair of its least and its greatest member.
-/

namespace FlatArith.Text

/-- A character class: closed ranges of code points, written with their least and greatest members. -/
abbrev Ranges := List (Nat × Nat)

/-- Whether one of the ranges covers a character. -/
def Ranges.covers (ranges : Ranges) (c : Char) : Bool :=
  ranges.any fun range => range.1 ≤ c.toNat && c.toNat ≤ range.2

theorem Ranges.covers_iff {ranges : Ranges} {c : Char} :
    ranges.covers c = true ↔ ∃ range ∈ ranges, range.1 ≤ c.toNat ∧ c.toNat ≤ range.2 := by
  simp [covers]

end FlatArith.Text
