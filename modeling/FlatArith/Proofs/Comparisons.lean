import Mathlib

/-!
# Comparisons with zero and at the ends of the scale

The floats that equal zero are the two zeros (`beq_zero_iff`).  Positive infinity is below no float, and
every other number is below it.  A float that is not a number is below no float and above none.  The facts
on the order are read off the comparison of unpacked floats (`float_lt_iff`).

Infinity and the library's facts on the bits of floats are in `Batteries.Data.Float`, which no part of
Mathlib imports.  This is the one module that imports Mathlib whole; those that reason about floats take
these facts from it.
-/

namespace FlatArith

open Float.Model

/-- The float is zero, of either sign. -/
def IsZero (n : Float) : Prop :=
  n = 0 ∨ n = -0

theorem beq_zero_iff {n : Float} : (n == 0) = true ↔ IsZero n := by
  rw [Float.beq_iff_ne_nan_and_eq]
  constructor
  · rintro ⟨-, -, rfl | ⟨rfl, -⟩ | ⟨rfl, -⟩⟩
    · exact .inl rfl
    · exact .inl rfl
    · exact .inr rfl
  · rintro (rfl | rfl)
    · exact ⟨by decide, by decide, .inl rfl⟩
    · exact ⟨by decide, by decide, .inr (.inr ⟨rfl, rfl⟩)⟩

instance (n : Float) : Decidable (IsZero n) :=
  decidable_of_iff _ beq_zero_iff

/-- Floats are compared as unpacked floats. -/
theorem float_lt_iff {x y : Float} :
    x < y ↔ x.toModel.unpack.compare y.toModel.unpack = some .lt := by
  constructor
  · intro h
    have hModel : x.toModel < y.toModel := of_decide_eq_true h
    exact beq_iff_eq.1 hModel
  · intro h
    have hModel : x.toModel < y.toModel := beq_iff_eq.2 h
    exact decide_eq_true hModel

theorem unpack_of_isNaN {x : Float} (h : x.isNaN = true) : x.toModel.unpack = .notANumber := by
  have hModel : x.toModel.unpack.isNaN = true := h
  cases hUnpacked : x.toModel.unpack with
  | notANumber => rfl
  | infinity sign | zero sign | finite sign mantissa exponent hPositive =>
      rw [hUnpacked] at hModel
      cases hModel

theorem unpack_inf : Float.inf.toModel.unpack = .infinity .positive := rfl

theorem not_inf_lt (x : Float) : ¬ Float.inf < x := by
  rw [float_lt_iff, unpack_inf]
  cases x.toModel.unpack with
  | infinity sign => cases sign <;> simp [UnpackedFloat.compare]
  | notANumber | zero sign | finite sign mantissa exponent hPositive => simp [UnpackedFloat.compare]

theorem not_lt_of_isNaN {x : Float} (h : x.isNaN = true) (y : Float) : ¬ x < y := by
  rw [float_lt_iff, unpack_of_isNaN h]
  simp [UnpackedFloat.compare]

theorem not_lt_isNaN {y : Float} (h : y.isNaN = true) (x : Float) : ¬ x < y := by
  rw [float_lt_iff, unpack_of_isNaN h]
  cases x.toModel.unpack <;> simp [UnpackedFloat.compare]

/-- Unpacking loses nothing of a float. -/
theorem eq_of_unpack {x y : Float} (h : x.toModel.unpack = y.toModel.unpack) : x = y := by
  have hBits := (UnpackedFloat.unpack_inj_of_valid x.toModel.valid y.toModel.valid).1 h
  exact Float.toBits_inj.1 (UInt64.toBitVec_inj.1 hBits)

/-- Below positive infinity is every other number. -/
theorem lt_inf_iff {x : Float} : x < Float.inf ↔ x ≠ Float.inf ∧ x.isNaN = false := by
  constructor
  · intro h
    refine ⟨fun hInf => not_inf_lt x (hInf ▸ h), ?_⟩
    exact Bool.eq_false_of_not_eq_true fun hNaN => not_lt_of_isNaN hNaN _ h
  · rintro ⟨hInf, hNaN⟩
    have hNumber : x.toModel.unpack.isNaN = false := hNaN
    rw [float_lt_iff, unpack_inf]
    cases hUnpacked : x.toModel.unpack with
    | infinity sign =>
        cases sign with
        | positive => exact absurd (eq_of_unpack hUnpacked) hInf
        | negative => rfl
    | notANumber =>
        rw [hUnpacked] at hNumber
        cases hNumber
    | zero sign | finite sign mantissa exponent hPositive => rfl

end FlatArith
