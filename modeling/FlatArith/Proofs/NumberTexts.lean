import FlatArith.Number
import FlatArith.Proofs.Comparisons
import FlatArith.Proofs.Digits

/-!
# A number's text identifies it

The decimals that read back as a value lie between the midpoints to its neighbours.  The values grow with
their places (`units_strictMono`), so two places have no such decimal in common
(`place_eq_of_readsBack`).  The shortest decimal of a place is one of them (`readsBack_shortest`), and its
positional form loses nothing but the grid that it was found on (`value_eq_of_positional_eq`).

Hence different floats have different texts (`text_inj`).  That the digits are as few as possible is not
used: any decimal that reads back would do.
-/

namespace FlatArith

namespace Binary64

theorem binade_pos : 0 < binade := by
  decide

/-- The value at a place of a binade whose neighbours are at least one unit apart. -/
theorem units_in_binade {k offset : Nat} (h : offset < binade) :
    units (binade * (k + 1) + offset) = (binade + offset) * 2 ^ k := by
  have hPlace : ¬ binade * (k + 1) + offset < binade := by
    rw [Nat.mul_succ]
    omega
  rw [units, if_neg hPlace, Nat.mul_add_mod, Nat.mod_eq_of_lt h, Nat.mul_add_div binade_pos,
    Nat.div_eq_of_lt h, Nat.add_zero, Nat.add_sub_cancel, Nat.pow_eq]

/-- A place lies below the first binade, or in one of the binades. -/
theorem exists_binade (place : Nat) :
    place < binade ∨ ∃ k offset, offset < binade ∧ place = binade * (k + 1) + offset := by
  by_cases h : place < binade
  · exact .inl h
  · have hQuotient : 1 ≤ place / binade := (Nat.one_le_div_iff binade_pos).2 (Nat.not_lt.1 h)
    refine .inr ⟨place / binade - 1, place % binade, Nat.mod_lt place binade_pos, ?_⟩
    rw [Nat.sub_add_cancel hQuotient, Nat.div_add_mod]

theorem units_lt_units_succ (place : Nat) : units place < units (place + 1) := by
  rcases exists_binade place with hLow | ⟨k, offset, hOffset, rfl⟩
  · have hPlace : units place = place := if_pos hLow
    rw [hPlace]
    by_cases hNext : place + 1 < binade
    · rw [units, if_pos hNext]
      exact Nat.lt_succ_self place
    · have hFirst : place + 1 = binade * (0 + 1) + 0 := by omega
      rw [hFirst, units_in_binade binade_pos]
      omega
  · rw [units_in_binade hOffset]
    by_cases hNext : offset + 1 < binade
    · rw [Nat.add_assoc, units_in_binade hNext]
      exact Nat.mul_lt_mul_of_pos_right (by omega) (Nat.two_pow_pos k)
    · -- The next place opens the next binade, whose gaps are twice as wide.
      have hFirst : binade * (k + 1) + offset + 1 = binade * (k + 1 + 1) + 0 := by
        rw [Nat.mul_succ binade (k + 1)]
        omega
      rw [hFirst, units_in_binade binade_pos, Nat.pow_succ', Nat.add_zero, ← Nat.mul_assoc]
      exact Nat.mul_lt_mul_of_pos_right (by omega) (Nat.two_pow_pos k)

/-- The values grow with their places. -/
theorem units_strictMono : StrictMono units :=
  strictMono_nat_of_lt_succ units_lt_units_succ

end Binary64

namespace Decimal

open Binary64

theorem downscale_pos (exponent : Int) : 0 < downscale exponent :=
  Nat.pow_pos (by decide)

section ReadingBack

variable {d d' : Decimal} {place place' : Nat}

/-- A decimal that reads back lies between the midpoints, and between them strictly for an odd place. -/
theorem ReadsBack.bounds (h : d.ReadsBack place) :
    ((units (place - 1) + units place) * downscale d.exponent ≤
        2 * d.digits * upscale d.exponent * unitsInOne ∧
      2 * d.digits * upscale d.exponent * unitsInOne ≤
        (units place + units (place + 1)) * downscale d.exponent) ∧
      (place % 2 = 1 →
        (units (place - 1) + units place) * downscale d.exponent <
            2 * d.digits * upscale d.exponent * unitsInOne ∧
          2 * d.digits * upscale d.exponent * unitsInOne <
            (units place + units (place + 1)) * downscale d.exponent) := by
  unfold ReadsBack at h
  dsimp only at h
  split at h
  · next hEven => exact ⟨h, fun hOdd => by omega⟩
  · exact ⟨⟨h.1.le, h.2.le⟩, fun _ => h⟩

/-- A fraction that is at least one number and at most another puts these in order, also when it is written
in two ways; and if it differs from one of them, they differ. -/
theorem bounds_of_same_fraction {low high n m scale scale' : Nat} (hScale : 0 < scale)
    (hScale' : 0 < scale') (hSame : n * scale' = m * scale) (hLow : low * scale' ≤ m)
    (hHigh : n ≤ high * scale) :
    low ≤ high ∧ (low * scale' < m ∨ n < high * scale → low < high) := by
  have hLeft : low * (scale * scale') ≤ m * scale := by
    calc
      _ = low * scale' * scale := by ring
      _ ≤ _ := Nat.mul_le_mul_right scale hLow
  have hRight : n * scale' ≤ high * (scale * scale') := by
    calc
      _ ≤ high * scale * scale' := Nat.mul_le_mul_right scale' hHigh
      _ = _ := by ring
  rw [hSame] at hRight
  refine ⟨Nat.le_of_mul_le_mul_right (hLeft.trans hRight) (Nat.mul_pos hScale hScale'), ?_⟩
  intro hStrict
  refine Nat.lt_of_mul_lt_mul_right (a := scale * scale') ?_
  rcases hStrict with hLess | hLess
  · refine Nat.lt_of_lt_of_le ?_ hRight
    calc
      _ = low * scale' * scale := by ring
      _ < _ := Nat.mul_lt_mul_of_pos_right hLess hScale
  · refine Nat.lt_of_le_of_lt hLeft ?_
    rw [← hSame]
    calc
      _ < high * scale * scale' := Nat.mul_lt_mul_of_pos_right hLess hScale'
      _ = _ := by ring

/-- What reads back as a value is no decimal of a greater one, however the two decimals are written. -/
theorem not_lt_of_readsBack (h : d.ReadsBack place) (h' : d'.ReadsBack place')
    (hValue : d.digits * upscale d.exponent * downscale d'.exponent =
      d'.digits * upscale d'.exponent * downscale d.exponent) : ¬ place < place' := by
  intro hLess
  obtain ⟨⟨-, hHigh⟩, hOdd⟩ := h.bounds
  obtain ⟨⟨hLow, -⟩, hOdd'⟩ := h'.bounds
  have hTwice : 2 * d.digits * upscale d.exponent * unitsInOne * downscale d'.exponent =
      2 * d'.digits * upscale d'.exponent * unitsInOne * downscale d.exponent := by
    calc
      _ = 2 * unitsInOne * (d.digits * upscale d.exponent * downscale d'.exponent) := by ring
      _ = 2 * unitsInOne * (d'.digits * upscale d'.exponent * downscale d.exponent) := by rw [hValue]
      _ = _ := by ring
  -- The midpoint below the greater place is not above the midpoint over the smaller one.
  obtain ⟨hMidpoints, hStrict⟩ := bounds_of_same_fraction (downscale_pos d.exponent)
    (downscale_pos d'.exponent) hTwice hLow hHigh
  by_cases hNeighbour : place' = place + 1
  · -- Of two neighbours one is odd and leaves the common midpoint to the other.
    subst hNeighbour
    rw [Nat.add_sub_cancel] at hStrict hOdd'
    rcases Nat.mod_two_eq_zero_or_one place with hEven | hPlace
    · exact Nat.lt_irrefl _ (hStrict (.inl (hOdd' (by omega)).1))
    · exact Nat.lt_irrefl _ (hStrict (.inr (hOdd hPlace).2))
  · have hBelow : units place ≤ units (place' - 1) := units_strictMono.monotone (by omega)
    have hFar : units (place + 1) < units place' := units_strictMono (by omega)
    omega

/-- A decimal reads back as one value only. -/
theorem place_eq_of_readsBack (h : d.ReadsBack place) (h' : d'.ReadsBack place')
    (hValue : d.digits * upscale d.exponent * downscale d'.exponent =
      d'.digits * upscale d'.exponent * downscale d.exponent) : place = place' :=
  Nat.le_antisymm (Nat.not_lt.1 (not_lt_of_readsBack h' h hValue.symm))
    (Nat.not_lt.1 (not_lt_of_readsBack h h' hValue))

theorem readsBack_exact (h : 0 < place) : (exact place).ReadsBack place := by
  have hScale : Nat.pow 5 1074 * unitsInOne = downscale (-1074) := by decide +kernel
  have hOne : upscale (-1074) = 1 := rfl
  have hTwice : 2 * (exact place).digits * upscale (-1074) * unitsInOne =
      2 * units place * downscale (-1074) := by
    calc
      _ = 2 * units place * (Nat.pow 5 1074 * unitsInOne) := by rw [hOne, exact]; ring
      _ = _ := by rw [hScale]
  have hBelow : units (place - 1) < units place := units_strictMono (by omega)
  have hAbove := units_lt_units_succ place
  have hLow : (units (place - 1) + units place) * downscale (-1074) <
      2 * units place * downscale (-1074) :=
    Nat.mul_lt_mul_of_pos_right (by omega) (downscale_pos _)
  have hHigh : 2 * units place * downscale (-1074) <
      (units place + units (place + 1)) * downscale (-1074) :=
    Nat.mul_lt_mul_of_pos_right (by omega) (downscale_pos _)
  have hExponent : (exact place).exponent = -1074 := rfl
  unfold ReadsBack
  dsimp only
  rw [hExponent, hTwice]
  split
  · exact ⟨hLow.le, hHigh.le⟩
  · exact ⟨hLow, hHigh⟩

/-- The shortest decimal reads back as the value that it was made for. -/
theorem readsBack_shortest (h : 0 < place) : (shortest place).ReadsBack place := by
  unfold shortest
  cases hFound : gridExponents.findSome? (nearestOn? place) with
  | none => exact readsBack_exact h
  | some d =>
      obtain ⟨exponent, -, hNearest⟩ := List.exists_of_findSome?_eq_some hFound
      exact readsBack_of_nearestOn? hNearest

end ReadingBack

section Positional

theorem le_length_padLeft (width : Nat) (digits : List Char) :
    width ≤ (padLeft width digits).length := by
  simp only [padLeft, List.length_append, List.length_replicate]
  omega

theorem isDigit_of_mem_padLeft {width n : Nat} {c : Char}
    (h : c ∈ padLeft width (Nat.toDigits 10 n)) : c.isDigit = true := by
  rcases List.mem_append.1 h with hPadding | hDigit
  · rw [List.eq_of_mem_replicate hPadding]
    rfl
  · exact Nat.isDigit_of_mem_toDigits (by decide) (by decide) hDigit

/-- Zeros in front do not change a number. -/
theorem ofDigitChars_padLeft (width n : Nat) :
    Nat.ofDigitChars 10 (padLeft width (Nat.toDigits 10 n)) 0 = n := by
  rw [padLeft, Nat.ofDigitChars_append, Nat.ofDigitChars_replicate_zero, Nat.mul_zero,
    Nat.ofDigitChars_ten_toDigits]

/-- A positional form is the digits with zeros behind them, or it is cut by a point into digits that
together are those of the decimal. -/
theorem cases_positional (d : Decimal) :
    (0 ≤ d.exponent ∧
        d.positional = Nat.toDigits 10 d.digits ++ List.replicate d.exponent.toNat '0' ∧
        ∀ c ∈ d.positional, c.isDigit = true) ∨
      (d.exponent < 0 ∧ ∃ opened fraction, d.positional = opened ++ '.' :: fraction ∧
        fraction.length = (-d.exponent).toNat ∧
        (∀ c ∈ opened ++ fraction, c.isDigit = true) ∧
        Nat.ofDigitChars 10 (opened ++ fraction) 0 = d.digits) := by
  by_cases hWhole : 0 ≤ d.exponent
  · have hPositional : d.positional =
        Nat.toDigits 10 d.digits ++ List.replicate d.exponent.toNat '0' :=
      if_pos hWhole
    refine .inl ⟨hWhole, hPositional, fun c hc => ?_⟩
    rw [hPositional] at hc
    rcases List.mem_append.1 hc with hDigit | hZero
    · exact Nat.isDigit_of_mem_toDigits (by decide) (by decide) hDigit
    · rw [List.eq_of_mem_replicate hZero]
      rfl
  · have hPositional : d.positional = withPoint (-d.exponent).toNat (Nat.toDigits 10 d.digits) :=
      if_neg hWhole
    have hLong := le_length_padLeft ((-d.exponent).toNat + 1) (Nat.toDigits 10 d.digits)
    refine .inr ⟨by omega, _, _, hPositional, ?_, ?_, ?_⟩
    · rw [List.length_drop]
      omega
    · rw [List.take_append_drop]
      exact fun c => isDigit_of_mem_padLeft
    · rw [List.take_append_drop]
      exact ofDigitChars_padLeft _ _

/-- A positional form is made of digits and a point. -/
theorem of_mem_positional {d : Decimal} {c : Char} (h : c ∈ d.positional) :
    c.isDigit = true ∨ c = '.' := by
  rcases d.cases_positional with ⟨-, -, hDigits⟩ | ⟨-, opened, fraction, hForm, -, hDigits, -⟩
  · exact .inl (hDigits c h)
  · rw [hForm] at h
    rcases List.mem_append.1 h with hLeft | hRight
    · exact .inl (hDigits c (List.mem_append_left _ hLeft))
    · rcases List.mem_cons.1 hRight with hPoint | hBehind
      · exact .inr hPoint
      · exact .inl (hDigits c (List.mem_append_right _ hBehind))

theorem point_not_mem_of_isDigit {l : List Char} (h : ∀ c ∈ l, c.isDigit = true) : '.' ∉ l :=
  fun hPoint => absurd (h '.' hPoint) (by decide)

theorem downscale_of_nonneg {exponent : Int} (h : 0 ≤ exponent) : downscale exponent = 1 := by
  rw [downscale, Int.toNat_of_nonpos (by omega)]

/-- Decimals with the same positional form have the same value. -/
theorem value_eq_of_positional_eq {d d' : Decimal} (h : d.positional = d'.positional) :
    d.digits * upscale d.exponent * downscale d'.exponent =
      d'.digits * upscale d'.exponent * downscale d.exponent := by
  rcases d.cases_positional with
      ⟨hSign, hForm, hWhole⟩ | ⟨hSign, opened, fraction, hForm, hPlaces, hDigits, hValue⟩ <;>
    rcases d'.cases_positional with
      ⟨hSign', hForm', hWhole'⟩ | ⟨hSign', opened', fraction', hForm', hPlaces', hDigits', hValue'⟩
  · -- Neither has a point: both are read as whole numbers.
    rw [hForm, hForm'] at h
    have hRead := congrArg (Nat.ofDigitChars 10 · 0) h
    simp only [Nat.ofDigitChars_append, Nat.ofDigitChars_ten_toDigits,
      Nat.ofDigitChars_replicate_zero] at hRead
    rw [downscale_of_nonneg hSign, downscale_of_nonneg hSign', Nat.mul_one, Nat.mul_one,
      Nat.mul_comm d.digits, Nat.mul_comm d'.digits]
    exact hRead
  · rw [h, hForm'] at hWhole
    exact absurd (List.mem_append_right _ List.mem_cons_self) (point_not_mem_of_isDigit hWhole)
  · rw [← h, hForm] at hWhole'
    exact absurd (List.mem_append_right _ List.mem_cons_self) (point_not_mem_of_isDigit hWhole')
  · -- Both are cut at their only point.
    rw [hForm, hForm'] at h
    have hOpened := point_not_mem_of_isDigit fun c hc => hDigits c (List.mem_append_left _ hc)
    have hOpened' := point_not_mem_of_isDigit fun c hc => hDigits' c (List.mem_append_left _ hc)
    obtain ⟨rfl, rfl⟩ := eq_of_append_delimiter hOpened hOpened' h
    have hExponent : d.exponent = d'.exponent := by omega
    rw [hExponent, ← hValue, ← hValue']

end Positional

end Decimal

namespace Number

open Binary64

/-- A finite value is written as a decimal that reads back as it. -/
theorem exists_positional {place : Nat} (h : place ≠ infinityPlace) :
    ∃ d : Decimal, d.ReadsBack place ∧ magnitudeText place = d.positional := by
  by_cases hZero : place = 0
  · subst hZero
    exact ⟨⟨0, 0⟩, by decide +kernel, rfl⟩
  · refine ⟨Decimal.shortest place, Decimal.readsBack_shortest (Nat.pos_of_ne_zero hZero), ?_⟩
    rw [magnitudeText, if_neg hZero, if_neg h]

theorem magnitudeText_infinityPlace : magnitudeText infinityPlace = ['i', 'n', 'f'] := rfl

/-- The text of a magnitude is made of digits and a point, or names infinity. -/
theorem cases_magnitudeText (place : Nat) :
    (place = infinityPlace ∧ magnitudeText place = ['i', 'n', 'f']) ∨
      ∀ c ∈ magnitudeText place, c.isDigit = true ∨ c = '.' := by
  by_cases h : place = infinityPlace
  · exact .inl ⟨h, h ▸ magnitudeText_infinityPlace⟩
  · obtain ⟨d, -, hForm⟩ := exists_positional h
    rw [hForm]
    exact .inr fun c => Decimal.of_mem_positional

/-- Different magnitudes have different texts. -/
theorem magnitudeText_inj {place place' : Nat} (h : magnitudeText place = magnitudeText place') :
    place = place' := by
  have named : ∀ {p q : Nat}, p = infinityPlace → magnitudeText p = magnitudeText q →
      q = infinityPlace := by
    intro p q hp hText
    rcases cases_magnitudeText q with ⟨hq, -⟩ | hPlain
    · exact hq
    · have hLetter : 'i' ∈ magnitudeText q := by
        rw [← hText, hp]
        exact List.mem_cons_self
      exact absurd (hPlain 'i' hLetter) (by decide)
  by_cases hInfinite : place = infinityPlace
  · rw [hInfinite, named hInfinite h]
  · have hInfinite' : place' ≠ infinityPlace := fun hq => hInfinite (named hq h.symm)
    obtain ⟨d, hReads, hForm⟩ := exists_positional hInfinite
    obtain ⟨d', hReads', hForm'⟩ := exists_positional hInfinite'
    rw [hForm, hForm'] at h
    exact Decimal.place_eq_of_readsBack hReads hReads' (Decimal.value_eq_of_positional_eq h)

/-- The characters of a float's text: digits, a point and a minus sign, unless it is a name. -/
theorem cases_text (x : Float) :
    text x = "NaN" ∨ text x = "inf" ∨ text x = "-inf" ∨
      ∀ c ∈ (text x).toList, c.isDigit = true ∨ c = '.' ∨ c = '-' := by
  unfold text
  split
  · exact .inl rfl
  · dsimp only
    rcases cases_magnitudeText (place x) with ⟨-, hName⟩ | hPlain
    · rw [hName]
      split
      · exact .inr (.inr (.inl rfl))
      · exact .inr (.inl rfl)
    · refine .inr (.inr (.inr ?_))
      rw [String.toList_ofList]
      split
      · intro c hc
        rcases List.mem_cons.1 hc with hMinus | hDigit
        · exact .inr (.inr hMinus)
        · exact (hPlain c hDigit).imp_right .inl
      · exact fun c hc => (hPlain c hc).imp_right .inl

theorem minus_not_mem_magnitudeText (place : Nat) : '-' ∉ magnitudeText place := by
  intro h
  rcases cases_magnitudeText place with ⟨-, hName⟩ | hPlain
  · rw [hName] at h
    exact absurd h (by decide)
  · exact absurd (hPlain '-' h) (by decide)

/-- A float is determined by its sign and its magnitude. -/
theorem eq_of_place_eq {x y : Float} (hSign : isNegative x = isNegative y)
    (hPlace : place x = place y) : x = y := by
  have hx := x.toBits.toNat_lt
  have hy := y.toBits.toNat_lt
  simp only [isNegative, decide_eq_decide] at hSign
  simp only [place] at hPlace
  refine Float.toBits_inj.1 (UInt64.toNat_inj.1 ?_)
  unfold signWeight at hSign hPlace
  omega

theorem text_of_isNaN_eq_false {x : Float} (h : x.isNaN = false) :
    (text x).toList =
      if isNegative x then '-' :: magnitudeText (place x) else magnitudeText (place x) := by
  rw [text, if_neg (Bool.eq_false_iff.1 h)]
  exact String.toList_ofList

/-- Only what is not a number has the text of what is not a number. -/
theorem text_eq_nan_iff {x : Float} : text x = "NaN" ↔ x.isNaN = true := by
  refine ⟨fun h => ?_, text_of_isNaN⟩
  by_contra hNumber
  have hList := text_of_isNaN_eq_false (Bool.eq_false_of_not_eq_true hNumber)
  have hLetter : 'N' ∈ (text x).toList := by
    rw [h]
    exact List.mem_cons_self
  have hMagnitude : 'N' ∈ magnitudeText (place x) := by
    rw [hList] at hLetter
    split at hLetter
    · exact (List.mem_cons.1 hLetter).resolve_left (by decide)
    · exact hLetter
  rcases cases_magnitudeText (place x) with ⟨-, hName⟩ | hPlain
  · rw [hName] at hMagnitude
    exact absurd hMagnitude (by decide)
  · exact absurd (hPlain 'N' hMagnitude) (by decide)

/-- Different floats have different texts. -/
theorem text_inj {x y : Float} (h : text x = text y) : x = y := by
  by_cases hNaN : x.isNaN = true
  · have hNaN' : y.isNaN = true := text_eq_nan_iff.1 (h ▸ text_of_isNaN hNaN)
    exact eq_of_unpack ((unpack_of_isNaN hNaN).trans (unpack_of_isNaN hNaN').symm)
  · have hNaN' : ¬ y.isNaN = true := fun hy =>
      hNaN (text_eq_nan_iff.1 (h.symm ▸ text_of_isNaN hy))
    have hList := congrArg String.toList h
    rw [text_of_isNaN_eq_false (Bool.eq_false_of_not_eq_true hNaN),
      text_of_isNaN_eq_false (Bool.eq_false_of_not_eq_true hNaN')] at hList
    have hMinus := minus_not_mem_magnitudeText
    cases hx : isNegative x <;> cases hy : isNegative y <;>
      simp only [hx, hy, reduceIte, Bool.false_eq_true] at hList
    · exact eq_of_place_eq (hx.trans hy.symm) (magnitudeText_inj hList)
    · exact absurd (hList ▸ List.mem_cons_self) (hMinus (place x))
    · exact absurd (hList ▸ List.mem_cons_self) (hMinus (place y))
    · exact eq_of_place_eq (hx.trans hy.symm) (magnitudeText_inj (List.cons.inj hList).2)

end Number

end FlatArith
