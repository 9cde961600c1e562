import FlatArith.Proofs.SpecialValues

/-!
# The signs of zeros

Two floats are alike when they are equal as numbers or neither is a number; so of all pairs of different
floats only the two zeros are alike (`alike_iff`).  Comparisons and the absolute value do not tell alike
floats apart, and no operation makes more of the difference, as long as nothing is divided by zero
(`Alike.compute`): the results differ by the sign of a zero at most.

Division by zero is the exception, since the sign of the divisor is that of the infinity.
-/

namespace FlatArith

open Float.Model

section Unpacked

/-- Unpacked zeros of either sign compare alike. -/
theorem compare_zero_right (u : UnpackedFloat) (sign other : UnpackedFloat.Sign) :
    u.compare (.zero sign) = u.compare (.zero other) := by
  cases u with
  | notANumber | zero => rfl
  | infinity sign | finite sign mantissa exponent hPositive => cases sign <;> rfl

/-- An unpacked zero is packed into a zero. -/
theorem isZero_pack {u : UnpackedFloat} (h : IsUnpackedZero u) : IsZero (.ofModel (.pack u)) := by
  obtain ⟨sign, rfl⟩ := h
  cases sign with
  | positive => exact .inl rfl
  | negative => exact .inr rfl

/-- What an operation makes of a zero on the left is a zero, or does not depend on its sign. -/
theorem Operator.computeUnpacked_zero_left (op : Operator) (u : UnpackedFloat) :
    (∀ sign other, op.computeUnpacked (.zero sign) u = op.computeUnpacked (.zero other) u) ∨
      ∀ sign, IsUnpackedZero (op.computeUnpacked (.zero sign) u) := by
  cases op with
  | plus | minus =>
      cases u with
      | zero other => exact .inr fun sign => by cases sign <;> cases other <;> exact ⟨_, rfl⟩
      | notANumber | infinity | finite => exact .inl fun _ _ => rfl
  | times =>
      cases u with
      | zero | finite => exact .inr fun _ => ⟨_, rfl⟩
      | notANumber | infinity => exact .inl fun _ _ => rfl
  | divide =>
      cases u with
      | infinity | finite => exact .inr fun _ => ⟨_, rfl⟩
      | notANumber | zero => exact .inl fun _ _ => rfl

/-- So is what an operation makes of a zero on the right, unless it divides by it. -/
theorem Operator.computeUnpacked_zero_right {op : Operator} (hOp : op ≠ .divide) (u : UnpackedFloat) :
    (∀ sign other, op.computeUnpacked u (.zero sign) = op.computeUnpacked u (.zero other)) ∨
      ∀ sign, IsUnpackedZero (op.computeUnpacked u (.zero sign)) := by
  cases op with
  | divide => exact absurd rfl hOp
  | plus | minus =>
      cases u with
      | zero other => exact .inr fun sign => by cases sign <;> cases other <;> exact ⟨_, rfl⟩
      | notANumber | infinity | finite => exact .inl fun _ _ => rfl
  | times =>
      cases u with
      | zero | finite => exact .inr fun _ => ⟨_, rfl⟩
      | notANumber | infinity => exact .inl fun _ _ => rfl

end Unpacked

/-- Floats that are equal as numbers are numbers. -/
theorem isNaN_of_beq {n m : Float} (h : (n == m) = true) : n.isNaN = false ∧ m.isNaN = false := by
  have number : ∀ x : Float, x ≠ Float.nan → x.isNaN = false := fun x hx =>
    Bool.eq_false_of_not_eq_true fun hNaN => hx (eq_of_unpack (unpack_of_isNaN hNaN))
  obtain ⟨hLeft, hRight, -⟩ := Float.beq_iff_ne_nan_and_eq.1 h
  exact ⟨number n hLeft, number m hRight⟩

/-- The floats are equal as numbers, or neither is a number. -/
def Alike (x y : Float) : Prop :=
  (x == y) = true ∨ x.isNaN = true ∧ y.isNaN = true

namespace Alike

variable {x x' y y' : Float}

/-- Different floats are alike only if both are zero. -/
theorem alike_iff : Alike x y ↔ x = y ∨ IsZero x ∧ IsZero y := by
  constructor
  · rintro (hEqual | ⟨hLeft, hRight⟩)
    · obtain ⟨-, -, rfl | ⟨rfl, rfl⟩ | ⟨rfl, rfl⟩⟩ := Float.beq_iff_ne_nan_and_eq.1 hEqual
      · exact .inl rfl
      · exact .inr ⟨.inl rfl, .inr rfl⟩
      · exact .inr ⟨.inr rfl, .inl rfl⟩
    · exact .inl (eq_of_unpack ((unpack_of_isNaN hLeft).trans (unpack_of_isNaN hRight).symm))
  · rintro (rfl | ⟨rfl | rfl, rfl | rfl⟩)
    · by_cases hNaN : x.isNaN = true
      · exact .inr ⟨hNaN, hNaN⟩
      · have hNumber : x ≠ Float.nan := fun h => hNaN (h ▸ rfl)
        exact .inl (Float.beq_iff_ne_nan_and_eq.2 ⟨hNumber, hNumber, .inl rfl⟩)
    all_goals exact .inl (by decide +kernel)

@[refl] theorem refl (x : Float) : Alike x x := alike_iff.2 (.inl rfl)

/-- A float differs from itself exactly if it is not a number. -/
theorem beq_self_eq_false_iff : (x == x) = false ↔ x.isNaN = true := by
  constructor
  · intro h
    rcases refl x with hEqual | ⟨hNaN, -⟩
    · exact absurd (h.symm.trans hEqual) (by decide)
    · exact hNaN
  · intro hNaN
    refine Bool.eq_false_of_not_eq_true fun hEqual => ?_
    exact absurd ((isNaN_of_beq hEqual).1.symm.trans hNaN) (by decide)

theorem of_isZero (hx : IsZero x) (hy : IsZero y) : Alike x y := alike_iff.2 (.inr ⟨hx, hy⟩)

theorem trans {z : Float} (h : Alike x y) (hNext : Alike y z) : Alike x z := by
  rcases alike_iff.1 h with rfl | ⟨hx, hy⟩
  · exact hNext
  · rcases alike_iff.1 hNext with rfl | ⟨-, hz⟩
    · exact h
    · exact of_isZero hx hz

theorem isZero_iff (h : Alike x y) : IsZero x ↔ IsZero y := by
  rcases alike_iff.1 h with rfl | ⟨hx, hy⟩
  · exact Iff.rfl
  · exact iff_of_true hx hy

theorem abs_eq (h : Alike x y) : x.abs = y.abs := by
  rcases alike_iff.1 h with rfl | ⟨rfl | rfl, rfl | rfl⟩
  · rfl
  all_goals decide +kernel

/-- A float is below both of two that are alike, or below neither. -/
theorem lt_iff (h : Alike x y) (z : Float) : z < x ↔ z < y := by
  rcases alike_iff.1 h with rfl | ⟨hx, hy⟩
  · exact Iff.rfl
  · obtain ⟨sign, hSign⟩ := isZero_iff_unpack.1 hx
    obtain ⟨other, hOther⟩ := isZero_iff_unpack.1 hy
    rw [float_lt_iff, float_lt_iff, hSign, hOther, compare_zero_right]

section Operations

theorem compute_of_isZero_left (op : Operator) (hx : IsZero x) (hx' : IsZero x') (y : Float) :
    Alike (op.compute x y) (op.compute x' y) := by
  obtain ⟨sign, hSign⟩ := isZero_iff_unpack.1 hx
  obtain ⟨other, hOther⟩ := isZero_iff_unpack.1 hx'
  rw [Operator.compute_eq_pack, Operator.compute_eq_pack, hSign, hOther]
  rcases op.computeUnpacked_zero_left y.toModel.unpack with hSame | hZero
  · rw [hSame sign other]
  · exact of_isZero (isZero_pack (hZero sign)) (isZero_pack (hZero other))

theorem compute_of_isZero_right {op : Operator} (hOp : op ≠ .divide) (x : Float) (hy : IsZero y)
    (hy' : IsZero y') : Alike (op.compute x y) (op.compute x y') := by
  obtain ⟨sign, hSign⟩ := isZero_iff_unpack.1 hy
  obtain ⟨other, hOther⟩ := isZero_iff_unpack.1 hy'
  rw [Operator.compute_eq_pack, Operator.compute_eq_pack, hSign, hOther]
  rcases Operator.computeUnpacked_zero_right hOp x.toModel.unpack with hSame | hZero
  · rw [hSame sign other]
  · exact of_isZero (isZero_pack (hZero sign)) (isZero_pack (hZero other))

/-- An operation on operands that are alike has results that are alike, unless it divides by zero. -/
theorem compute {op : Operator} (hx : Alike x x') (hy : Alike y y')
    (hDivisor : ¬ (op = .divide ∧ IsZero y)) : Alike (op.compute x y) (op.compute x' y') := by
  have hLeft : Alike (op.compute x y) (op.compute x' y) := by
    rcases alike_iff.1 hx with rfl | ⟨hZero, hZero'⟩
    · exact refl _
    · exact compute_of_isZero_left op hZero hZero' y
  have hRight : Alike (op.compute x' y) (op.compute x' y') := by
    rcases alike_iff.1 hy with rfl | ⟨hZero, hZero'⟩
    · exact refl _
    · exact compute_of_isZero_right (fun hDivide => hDivisor ⟨hDivide, hZero⟩) x' hZero hZero'
  exact hLeft.trans hRight

end Operations

section Saturation

variable (c : Calculator) (op : Operator)

theorem saturateLeft (h : Alike x y) : Alike (c.saturateLeft op x) (c.saturateLeft op y) := by
  have hBeyond : x > c.limit ↔ y > c.limit := h.lt_iff c.limit
  unfold Calculator.saturateLeft
  by_cases hy : y > c.limit
  · rw [if_pos (hBeyond.2 hy), if_pos hy]
  · rw [if_neg (mt hBeyond.1 hy), if_neg hy]
    exact h

theorem saturateRight (h : Alike x y) : Alike (c.saturateRight op x) (c.saturateRight op y) := by
  unfold Calculator.saturateRight
  rw [h.abs_eq]
  split
  · exact refl _
  · exact h

/-- Operands that are alike are refused together or give results that are alike. -/
theorem cases_apply {left left' right right' : Float} (hLeft : Alike left left')
    (hRight : Alike right right') :
    (c.apply op left right = .error .divisionByZero ∧
        c.apply op left' right' = .error .divisionByZero) ∨
      ∃ result result', c.apply op left right = .ok result ∧
        c.apply op left' right' = .ok result' ∧ Alike result result' := by
  by_cases hDivides : Calculator.dividesByZero op right = true
  · obtain ⟨hDivide, hZero⟩ := Calculator.dividesByZero_iff.1 hDivides
    have hDivides' := Calculator.dividesByZero_iff.2 ⟨hDivide, hRight.isZero_iff.1 hZero⟩
    exact .inl ⟨Calculator.apply_of_dividesByZero hDivides,
      Calculator.apply_of_dividesByZero hDivides'⟩
  · have hDivides' : ¬ Calculator.dividesByZero op right' = true := by
      rwa [Calculator.dividesByZero_iff, ← hRight.isZero_iff, ← Calculator.dividesByZero_iff]
    -- Saturation makes no divisor zero, so what is divided by is not zero either.
    have hDivisor : ¬ (op = .divide ∧ IsZero (c.saturateRight op right)) := by
      rintro ⟨rfl, hZero⟩
      exact hDivides (Calculator.dividesByZero_iff.2 ⟨rfl, c.isZero_of_saturateRight rfl hZero⟩)
    exact .inr ⟨_, _, if_neg hDivides, if_neg hDivides',
      (hLeft.saturateLeft c op).compute (hRight.saturateRight c op) hDivisor⟩

end Saturation

end Alike

end FlatArith
