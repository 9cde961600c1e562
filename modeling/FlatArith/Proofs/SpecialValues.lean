import FlatArith.Proofs.Comparisons
import FlatArith.Proofs.ZeroDivisors

/-!
# The special values of binary64 arithmetic

Zeros, infinities and the floats that are not numbers are told apart by the constructors of the unpacked
floats.  From them this module reads off what needs no look at a significand:

* an operation on a float that is not a number has no number for its result
  (`isNaN_compute_left`, `isNaN_compute_right`);
* on numbers it has one, unless the operands are indeterminate for it, as zero and infinity are for
  a multiplication (`of_isNaN_compute`).

Saturation keeps what is not a number.  Under a limit that infinity is beyond, it leaves no infinite
right operand, and only one way to a result that is not a number: negative infinity times zero
(`of_isNaN_apply`).
-/

namespace FlatArith

open Float.Model

section Unpacked

/-- The bits of a packed float are those of what is not a number exactly when the float is none. -/
theorem isNaNBits_pack (u : UnpackedFloat) :
    UnpackedFloat.isNaNBits (UnpackedFloat.pack .binary64 u) = u.isNaN := by
  fun_cases UnpackedFloat.pack .binary64 u with
  | case1 => exact UnpackedFloat.isNaNBits_packedNaN
  | case2 sign => simp [UnpackedFloat.isNaNBits, UnpackedFloat.packedInfinity, UnpackedFloat.isNaN]
  | case3 sign => simp [UnpackedFloat.isNaNBits, UnpackedFloat.packedZero, UnpackedFloat.isNaN]
  | case4 sign mantissa exponent hPositive biased hLarge =>
      simp [UnpackedFloat.isNaNBits, UnpackedFloat.packedInfinity, UnpackedFloat.isNaN]
  | case5 sign mantissa exponent hPositive bits biased hSmall hNormal =>
      -- The exponent of a finite float has not only ones for its bits.
      have hExponent : BitVec.ofNat 11 biased ≠ 2047#11 := by
        intro h
        have hValue : biased % 2048 = 2047 := congrArg BitVec.toNat h
        have hBound : ¬ 2048 ≤ biased + 1 := hSmall
        omega
      simp [UnpackedFloat.isNaNBits, UnpackedFloat.isNaN, hExponent]
  | case6 sign mantissa exponent hPositive bits biased hSmall hSubnormal =>
      simp [UnpackedFloat.isNaNBits, UnpackedFloat.isNaN]

/-- Packing a float neither makes it a number nor unmakes it one. -/
theorem isNaN_unpack_pack (u : UnpackedFloat) : (Float.Model.pack u).unpack.isNaN = u.isNaN := by
  have hPacked : (Float.Model.pack u).unpack.isNaN = true ↔
      UnpackedFloat.pack .binary64 u = UnpackedFloat.packedNaN .binary64 :=
    UnpackedFloat.isNaN_unpack_iff_of_valid UnpackedFloat.valid_pack
  rw [Bool.eq_iff_iff, hPacked, ← isNaNBits_pack u]
  constructor
  · intro h
    rw [h]
    exact UnpackedFloat.isNaNBits_packedNaN
  · intro h
    obtain ⟨hExponent, hMantissa⟩ := of_decide_eq_true h
    exact UnpackedFloat.valid_pack.eq_packedNaN hExponent hMantissa

variable {spec : Format} {a b : UnpackedFloat}

theorem isNaN_roundWithAccuracy (sign : UnpackedFloat.Sign) (mantissa : Nat) (exponent : Int)
    (accuracy : UnpackedFloat.Accuracy) :
    (UnpackedFloat.roundWithAccuracy spec sign mantissa exponent accuracy).isNaN = false := by
  unfold UnpackedFloat.roundWithAccuracy
  dsimp only
  split <;> rfl

theorem isNaN_normalize (mantissa exponent : Int) (zeroSign : UnpackedFloat.Sign) :
    (UnpackedFloat.normalize spec mantissa exponent zeroSign).isNaN = false := by
  unfold UnpackedFloat.normalize
  split
  · exact isNaN_roundWithAccuracy ..
  · rfl
  · exact isNaN_roundWithAccuracy ..

/-- The unpacked float is a zero, of either sign. -/
def IsUnpackedZero (u : UnpackedFloat) : Prop :=
  ∃ sign, u = .zero sign

/-- A sum of numbers is none only if both are infinite. -/
theorem of_isNaN_add (h : (UnpackedFloat.add spec a b).isNaN = true) :
    a.isNaN = true ∨ b.isNaN = true ∨ a.isInf = true ∧ b.isInf = true := by
  cases a <;> cases b <;>
    grind [UnpackedFloat.add, UnpackedFloat.isNaN, UnpackedFloat.isInf, isNaN_normalize]

/-- A difference of numbers is none only if both are infinite. -/
theorem of_isNaN_sub (h : (UnpackedFloat.sub spec a b).isNaN = true) :
    a.isNaN = true ∨ b.isNaN = true ∨ a.isInf = true ∧ b.isInf = true := by
  cases a <;> cases b <;>
    grind [UnpackedFloat.sub, UnpackedFloat.isNaN, UnpackedFloat.isInf, isNaN_normalize]

/-- A product of numbers is none only if one is zero and the other infinite. -/
theorem of_isNaN_mul (h : (UnpackedFloat.mul spec a b).isNaN = true) :
    a.isNaN = true ∨ b.isNaN = true ∨ IsUnpackedZero a ∧ b.isInf = true ∨
      a.isInf = true ∧ IsUnpackedZero b := by
  cases a <;> cases b <;>
    grind [UnpackedFloat.mul, UnpackedFloat.isNaN, UnpackedFloat.isInf, isNaN_roundWithAccuracy,
      IsUnpackedZero]

/-- A quotient of numbers is none only if both are zero or both infinite. -/
theorem of_isNaN_div (h : (UnpackedFloat.div spec a b).isNaN = true) :
    a.isNaN = true ∨ b.isNaN = true ∨ IsUnpackedZero a ∧ IsUnpackedZero b ∨
      a.isInf = true ∧ b.isInf = true := by
  cases a <;> cases b <;>
    grind [UnpackedFloat.div, UnpackedFloat.isNaN, UnpackedFloat.isInf, isNaN_roundWithAccuracy,
      IsUnpackedZero]

end Unpacked

section Classes

variable {x y : Float}

theorem isZero_iff_unpack : IsZero x ↔ IsUnpackedZero x.toModel.unpack := by
  have hZero : (0 : Float).toModel.unpack = .zero .positive := rfl
  have hCompare : (x == 0) = true ↔ x.toModel.unpack.compare (0 : Float).toModel.unpack = some .eq :=
    beq_iff_eq (a := x.toModel.unpack.compare _)
  rw [← beq_zero_iff, hCompare, hZero, IsUnpackedZero]
  cases x.toModel.unpack with
  | zero sign => simp [UnpackedFloat.compare]
  | notANumber => simp [UnpackedFloat.compare]
  | infinity sign => cases sign <;> simp [UnpackedFloat.compare]
  | finite sign mantissa exponent hPositive => cases sign <;> simp [UnpackedFloat.compare]

end Classes

namespace Operator

/-- The operation that an operator denotes, on unpacked floats. -/
def computeUnpacked : Operator → UnpackedFloat → UnpackedFloat → UnpackedFloat
  | plus => UnpackedFloat.add .binary64
  | minus => UnpackedFloat.sub .binary64
  | times => UnpackedFloat.mul .binary64
  | divide => UnpackedFloat.div .binary64

theorem compute_eq_pack (op : Operator) (x y : Float) :
    op.compute x y =
      .ofModel (.pack (op.computeUnpacked x.toModel.unpack y.toModel.unpack)) := by
  cases op <;> rfl

theorem isNaN_compute (op : Operator) (x y : Float) :
    (op.compute x y).isNaN =
      (op.computeUnpacked x.toModel.unpack y.toModel.unpack).isNaN := by
  rw [compute_eq_pack]
  exact isNaN_unpack_pack _

theorem isNaN_compute_left (op : Operator) {x : Float} (h : x.isNaN = true) (y : Float) :
    (op.compute x y).isNaN = true := by
  rw [isNaN_compute, unpack_of_isNaN h]
  cases op <;> rfl

theorem isNaN_compute_right (op : Operator) (x : Float) {y : Float} (h : y.isNaN = true) :
    (op.compute x y).isNaN = true := by
  rw [isNaN_compute, unpack_of_isNaN h]
  cases op <;> cases x.toModel.unpack <;> rfl

/-- The operands are numbers without a result that is one. -/
def Indeterminate : Operator → Float → Float → Prop
  | plus, x, y | minus, x, y => x.isInf = true ∧ y.isInf = true
  | times, x, y => IsZero x ∧ y.isInf = true ∨ x.isInf = true ∧ IsZero y
  | divide, x, y => IsZero x ∧ IsZero y ∨ x.isInf = true ∧ y.isInf = true

theorem Indeterminate.of_not_isInf {op : Operator} {x y : Float} (h : op.Indeterminate x y)
    (hRight : y.isInf = false) : IsZero y ∧ (op = .times ∧ x.isInf = true ∨ op = .divide) := by
  have hFinite : ¬ y.isInf = true := Bool.eq_false_iff.1 hRight
  cases op with
  | plus | minus => exact absurd h.2 hFinite
  | times =>
      obtain ⟨hInf, hZero⟩ := h.resolve_left fun hLeft => hFinite hLeft.2
      exact ⟨hZero, .inl ⟨rfl, hInf⟩⟩
  | divide =>
      obtain ⟨-, hZero⟩ := h.resolve_right fun hInf => hFinite hInf.2
      exact ⟨hZero, .inr rfl⟩

/-- An operation on numbers has a number for its result, unless they are indeterminate for it. -/
theorem of_isNaN_compute {op : Operator} {x y : Float} (h : (op.compute x y).isNaN = true) :
    x.isNaN = true ∨ y.isNaN = true ∨ op.Indeterminate x y := by
  rw [isNaN_compute] at h
  cases op with
  | plus => exact of_isNaN_add h
  | minus => exact of_isNaN_sub h
  | times =>
      rw [Indeterminate, isZero_iff_unpack, isZero_iff_unpack]
      exact of_isNaN_mul h
  | divide =>
      rw [Indeterminate, isZero_iff_unpack, isZero_iff_unpack]
      exact of_isNaN_div h

end Operator

theorem isInf_iff {x : Float} : x.isInf = true ↔ x = Float.inf ∨ x = -Float.inf := by
  constructor
  · intro h
    have hInf : x.toModel.unpack.isInf = true := h
    cases hUnpacked : x.toModel.unpack with
    | infinity sign =>
        cases sign with
        | positive => exact .inl (eq_of_unpack hUnpacked)
        | negative => exact .inr (eq_of_unpack hUnpacked)
    | notANumber | zero sign | finite sign mantissa exponent hPositive =>
        rw [hUnpacked] at hInf
        cases hInf
  · rintro (rfl | rfl) <;> rfl

theorem isNaN_abs (x : Float) : x.abs.isNaN = x.isNaN := by
  have hAbs : x.abs.isNaN = x.toModel.unpack.abs.isNaN := isNaN_unpack_pack _
  have hSelf : x.isNaN = x.toModel.unpack.isNaN := rfl
  rw [hAbs, hSelf]
  cases x.toModel.unpack <;> rfl

theorem abs_of_isInf {x : Float} (h : x.isInf = true) : x.abs = Float.inf := by
  rcases isInf_iff.1 h with rfl | rfl <;> decide +kernel

namespace Calculator

variable (c : Calculator)

theorem isNaN_neutral (op : Operator) : op.neutral.isNaN = false := by
  cases op <;> decide +kernel

theorem isInf_neutral (op : Operator) : op.neutral.isInf = false := by
  cases op <;> decide +kernel

/-- Saturation keeps what is not a number, and puts a number in the place of a number. -/
theorem isNaN_saturateLeft (op : Operator) (left : Float) :
    (c.saturateLeft op left).isNaN = left.isNaN := by
  unfold saturateLeft
  split
  · next hBeyond =>
      have hNumber : ¬ left.isNaN = true := fun h => not_lt_isNaN h _ hBeyond
      rw [isNaN_neutral, Bool.eq_false_of_not_eq_true hNumber]
  · rfl

theorem isNaN_saturateRight (op : Operator) (right : Float) :
    (c.saturateRight op right).isNaN = right.isNaN := by
  unfold saturateRight
  split
  · next hBeyond =>
      have hNumber : ¬ right.isNaN = true := fun h =>
        not_lt_isNaN ((isNaN_abs right).trans h) _ hBeyond
      rw [isNaN_neutral, Bool.eq_false_of_not_eq_true hNumber]
  · rfl

/-- Saturation makes no factor and no divisor zero. -/
theorem isZero_of_saturateRight {op : Operator} (hOp : op.isAdditive = false) {right : Float}
    (h : IsZero (c.saturateRight op right)) : IsZero right := by
  have hNeutral : ¬ IsZero op.neutral := by
    cases op with
    | plus | minus => cases hOp
    | times | divide => decide +kernel
  unfold saturateRight at h
  split at h
  · exact absurd h hNeutral
  · exact h

/-- An operator that is applied to what is not a number has no number for its result. -/
theorem isNaN_of_apply {op : Operator} {left right result : Float}
    (h : c.apply op left right = .ok result) (hOperand : left.isNaN = true ∨ right.isNaN = true) :
    result.isNaN = true := by
  unfold apply at h
  split at h
  · cases h
  · cases h
    rcases hOperand with hLeft | hRight
    · exact op.isNaN_compute_left ((c.isNaN_saturateLeft op left).trans hLeft) _
    · exact op.isNaN_compute_right _ ((c.isNaN_saturateRight op right).trans hRight)

section Limited

variable (hLimit : c.limit < Float.inf)

include hLimit

/-- An infinite left operand is kept only if it is negative. -/
theorem eq_neg_inf_of_isInf_saturateLeft {op : Operator} {left : Float}
    (h : (c.saturateLeft op left).isInf = true) : left = -Float.inf := by
  unfold saturateLeft at h
  split at h
  · rw [isInf_neutral] at h
    cases h
  · next hWithin =>
      refine (isInf_iff.1 h).resolve_left ?_
      rintro rfl
      exact hWithin hLimit

/-- An infinite right operand is not kept. -/
theorem isInf_saturateRight (op : Operator) (right : Float) :
    (c.saturateRight op right).isInf = false := by
  unfold saturateRight
  split
  · exact isInf_neutral op
  · next hWithin =>
      refine Bool.eq_false_of_not_eq_true fun hInf => hWithin ?_
      rw [abs_of_isInf hInf]
      exact hLimit

/-- The only numbers that an operator makes into what is none are negative infinity and a zero behind
it, and the operator is a multiplication. -/
theorem of_isNaN_apply {op : Operator} {left right result : Float}
    (h : c.apply op left right = .ok result) (hResult : result.isNaN = true)
    (hLeft : left.isNaN = false) (hRight : right.isNaN = false) :
    op = .times ∧ left = -Float.inf ∧ IsZero right := by
  unfold apply at h
  split at h
  · cases h
  · next hDivisor =>
      cases h
      rcases Operator.of_isNaN_compute hResult with hNaN | hNaN | hIndeterminate
      · rw [isNaN_saturateLeft, hLeft] at hNaN
        cases hNaN
      · rw [isNaN_saturateRight, hRight] at hNaN
        cases hNaN
      · have hFinite := c.isInf_saturateRight hLimit op right
        rcases hIndeterminate.of_not_isInf hFinite with ⟨hZero, ⟨rfl, hInf⟩ | rfl⟩
        · exact ⟨rfl, c.eq_neg_inf_of_isInf_saturateLeft hLimit hInf,
            c.isZero_of_saturateRight rfl hZero⟩
        · -- A zero divisor has been refused before saturation.
          have hRightZero := c.isZero_of_saturateRight rfl hZero
          exact absurd (dividesByZero_iff.2 ⟨rfl, hRightZero⟩) hDivisor

end Limited

end Calculator

end FlatArith
