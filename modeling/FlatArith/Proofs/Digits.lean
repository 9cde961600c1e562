import Mathlib.Data.Nat.Basic

/-!
# Digits and what ends them

A numeral is read up to the first character that is no digit.  `digitChar_of_mem_toDigits` says which
characters a numeral is made of, so that every other one can end it, and `eq_of_append_delimiter` that
a text is cut in one way only at a character that does not occur before the cut.  A numeral determines
its number, in every base up to sixteen (`toDigits_inj`).
-/

namespace FlatArith

/-- A list is cut in one way at an element that does not occur before the cut. -/
theorem eq_of_append_delimiter {α : Type} {delimiter : α} {first second rest later : List α}
    (hFirst : delimiter ∉ first) (hSecond : delimiter ∉ second)
    (h : first ++ delimiter :: rest = second ++ delimiter :: later) :
    first = second ∧ rest = later := by
  induction first generalizing second with
  | nil =>
      cases second with
      | nil => exact ⟨rfl, (List.cons.inj h).2⟩
      | cons a second =>
          obtain ⟨rfl, -⟩ := List.cons.inj h
          exact absurd List.mem_cons_self hSecond
  | cons a first ih =>
      cases second with
      | nil =>
          obtain ⟨rfl, -⟩ := List.cons.inj h
          exact absurd List.mem_cons_self hFirst
      | cons b second =>
          obtain ⟨rfl, hTails⟩ := List.cons.inj h
          have hTail := ih (List.not_mem_of_not_mem_cons hFirst) (List.not_mem_of_not_mem_cons hSecond)
            hTails
          exact ⟨congrArg (a :: ·) hTail.1, hTail.2⟩

theorem digitChar_inj {d e : Nat} (hd : d < 16) (he : e < 16)
    (h : Nat.digitChar d = Nat.digitChar e) : d = e := by
  have decided : ∀ d < 16, ∀ e < 16, Nat.digitChar d = Nat.digitChar e → d = e := by decide
  exact decided d hd e he h

section Numerals

variable {base : Nat} (hBase : 1 < base)

include hBase

/-- A numeral is made of the digits below its base. -/
theorem digitChar_of_mem_toDigits {n : Nat} {c : Char} (h : c ∈ Nat.toDigits base n) :
    ∃ d < base, c = Nat.digitChar d := by
  induction n using Nat.strong_induction_on with
  | _ n ih =>
      rw [Nat.toDigits_eq_if hBase] at h
      split at h
      · next hSmall => exact ⟨n, hSmall, List.mem_singleton.1 h⟩
      · next hLarge =>
          rcases List.mem_append.1 h with hUpper | hLast
          · exact ih (n / base) (Nat.div_lt_self (by omega) hBase) hUpper
          · exact ⟨n % base, Nat.mod_lt n (by omega), List.mem_singleton.1 hLast⟩

/-- Different numbers have different numerals. -/
theorem toDigits_inj (hSixteen : base ≤ 16) {n m : Nat}
    (h : Nat.toDigits base n = Nat.toDigits base m) : n = m := by
  induction n using Nat.strong_induction_on generalizing m with
  | _ n ih =>
      have nonempty : ∀ k, Nat.toDigits base k ≠ [] := fun _ => Nat.toDigits_ne_nil
      rw [Nat.toDigits_eq_if hBase, Nat.toDigits_eq_if hBase (n := m)] at h
      split at h
      · next hn =>
          split at h
          · next hm => exact digitChar_inj (by omega) (by omega) (List.singleton_inj.1 h)
          · exact absurd (List.append_eq_singleton_iff.1 h.symm) (by simp [nonempty])
      · next hn =>
          split at h
          · exact absurd (List.append_eq_singleton_iff.1 h) (by simp [nonempty])
          · -- The last digits are the remainders, and what stands before them the quotients.
            obtain ⟨hUpper, hLast⟩ := List.append_inj' h rfl
            have hQuotient := ih (n / base) (Nat.div_lt_self (by omega) hBase) hUpper
            have hRemainder : n % base = m % base := by
              have hn := Nat.mod_lt n (Nat.zero_lt_of_lt hBase)
              have hm := Nat.mod_lt m (Nat.zero_lt_of_lt hBase)
              exact digitChar_inj (by omega) (by omega) (List.singleton_inj.1 hLast)
            rw [← Nat.div_add_mod n base, ← Nat.div_add_mod m base, hQuotient, hRemainder]

end Numerals

end FlatArith
