import FlatArith.Proofs.Digits
import FlatArith.Text.Quoted
import Mathlib.Data.Bool.Basic
import Mathlib.Data.List.Induction

/-!
# Quoted texts can be read back, and end where they seem to

The written forms of the characters are told apart by how they begin, and none of them is the beginning of
another (`eq_of_escape_append`), so a quoted text determines the text (`quote_inj`).  All that is written
is printable (`isPrintable_of_mem_quote`).

Inside a quoted text a double quote stands behind an odd run of backslashes.  The quote that ends the text
is the only one that does not (`closes_iff`), also behind a text that ends in backslashes itself.
-/

namespace FlatArith.Text

/-- A character that is shown as it is, unless it has a short escape. -/
def IsPrintable (c : Char) : Prop :=
  isExtending c = false ∧ isUnprintable c = false

/-- A control character. -/
def IsControl (c : Char) : Prop :=
  c.toNat ≤ 0x1F ∨ 0x7F ≤ c.toNat ∧ c.toNat ≤ 0x9F

/-- A character that ends a line: line feed, vertical tab, form feed, carriage return, next line, or one of
the two separators. -/
def IsLineBreak (c : Char) : Prop :=
  c.toNat ∈ [0xA, 0xB, 0xC, 0xD, 0x85, 0x2028, 0x2029]

section Printable

theorem IsPrintable.not_mem_range {c : Char} (h : IsPrintable c) (range : Nat × Nat)
    (hRange : range ∈ unprintableRanges) : ¬ (range.1 ≤ c.toNat ∧ c.toNat ≤ range.2) := fun hInside =>
  absurd ((Ranges.covers_iff.2 ⟨range, hRange, hInside⟩).symm.trans h.2) (by decide)

theorem IsPrintable.not_isControl {c : Char} (h : IsPrintable c) : ¬ IsControl c := by
  have hLow := h.not_mem_range (0x0, 0x1F) (by decide +kernel)
  have hHigh := h.not_mem_range (0x7F, 0xA0) (by decide +kernel)
  unfold IsControl
  omega

theorem IsPrintable.not_isLineBreak {c : Char} (h : IsPrintable c) : ¬ IsLineBreak c := by
  have hControl := h.not_isControl
  have hSeparators := h.not_mem_range (0x2028, 0x202F) (by decide +kernel)
  simp only [IsLineBreak, List.mem_cons, List.not_mem_nil, or_false]
  unfold IsControl at hControl
  omega

theorem covers_eq_false_of_apart (ranges : Ranges)
    (h : ∀ range ∈ ranges, range.2 < 0x20 ∨ 0x7E < range.1) {c : Char}
    (hFrom : 0x20 ≤ c.toNat) (hTo : c.toNat ≤ 0x7E) : ranges.covers c = false := by
  refine Bool.eq_false_of_not_eq_true fun hCovers => ?_
  obtain ⟨range, hRange, hLow, hHigh⟩ := Ranges.covers_iff.1 hCovers
  have hApart := h range hRange
  omega

/-- The characters from the blank to the tilde are printable. -/
theorem isPrintable_of_ascii {c : Char} (h : 0x20 ≤ c.toNat ∧ c.toNat ≤ 0x7E) : IsPrintable c :=
  ⟨covers_eq_false_of_apart extendingRanges (by decide +kernel) h.1 h.2,
    covers_eq_false_of_apart unprintableRanges (by decide +kernel) h.1 h.2⟩

end Printable

section OneCharacter

/-- The characters that have a short escape, with the letters behind the backslash. -/
def shortEscapes : List (Char × Char) :=
  [('\x00', '0'), ('\t', 't'), ('\r', 'r'), ('\n', 'n'), ('"', '"'), ('\\', '\\')]

theorem mem_shortEscapes {c letter : Char} (h : shortEscape? c = some letter) :
    (c, letter) ∈ shortEscapes := by
  unfold shortEscape? at h
  split at h <;> cases h <;> decide

theorem shortEscape?_inj {a b letter : Char} (ha : shortEscape? a = some letter)
    (hb : shortEscape? b = some letter) : a = b := by
  have decided : ∀ first ∈ shortEscapes, ∀ second ∈ shortEscapes, first.2 = second.2 →
      first.1 = second.1 := by
    decide
  exact decided _ (mem_shortEscapes ha) _ (mem_shortEscapes hb) rfl

/-- The letters of the short escapes are printable, and none is that of the hexadecimal form. -/
theorem of_shortEscape? {c letter : Char} (h : shortEscape? c = some letter) :
    letter ≠ 'u' ∧ IsPrintable letter := by
  have decided : ∀ entry ∈ shortEscapes,
      entry.2 ≠ 'u' ∧ 0x20 ≤ entry.2.toNat ∧ entry.2.toNat ≤ 0x7E := by
    decide
  obtain ⟨hLetter, hAscii⟩ := decided _ (mem_shortEscapes h)
  exact ⟨hLetter, isPrintable_of_ascii hAscii⟩

/-- A character is written by a short escape, by its code point, or as it is. -/
theorem cases_escape (c : Char) :
    (∃ letter, shortEscape? c = some letter ∧ escape c = ['\\', letter]) ∨
      escape c = '\\' :: 'u' :: bracedHex c ∨
      (c ≠ '"' ∧ c ≠ '\\' ∧ IsPrintable c) ∧ escape c = [c] := by
  cases hShort : shortEscape? c with
  | some letter => exact .inl ⟨letter, rfl, escape_of_shortEscape? hShort⟩
  | none =>
      have hEscape : escape c =
          if isExtending c || isUnprintable c then '\\' :: 'u' :: bracedHex c else [c] := by
        rw [escape, hShort]
      by_cases hHidden : (isExtending c || isUnprintable c) = true
      · exact .inr (.inl (hEscape.trans (if_pos hHidden)))
      · refine .inr (.inr ⟨⟨?_, ?_, ?_⟩, hEscape.trans (if_neg hHidden)⟩)
        · rintro rfl
          cases hShort
        · rintro rfl
          cases hShort
        · exact Bool.or_eq_false_iff.1 (Bool.eq_false_of_not_eq_true hHidden)

theorem brace_not_mem_hex (n : Nat) : '\x7d' ∉ Nat.toDigits 16 n := by
  intro h
  obtain ⟨d, hd, hBrace⟩ := digitChar_of_mem_toDigits (by decide) h
  have decided : ∀ d < 16, '\x7d' ≠ Nat.digitChar d := by decide
  exact decided d hd hBrace

/-- A code point in braces can be read off the beginning of a text. -/
theorem eq_of_bracedHex_append {a b : Char} {rest later : List Char}
    (h : bracedHex a ++ rest = bracedHex b ++ later) : a = b ∧ rest = later := by
  simp only [bracedHex, List.cons_append, List.append_assoc, List.nil_append, List.cons.injEq,
    true_and] at h
  obtain ⟨hDigits, hRest⟩ :=
    eq_of_append_delimiter (brace_not_mem_hex a.toNat) (brace_not_mem_hex b.toNat) h
  exact ⟨Char.toNat_inj.1 (toDigits_inj (by decide) (by decide) hDigits), hRest⟩

/-- The written form of a character can be read off the beginning of a text. -/
theorem eq_of_escape_append {a b : Char} {rest later : List Char}
    (h : escape a ++ rest = escape b ++ later) : a = b ∧ rest = later := by
  -- Two forms of different kinds differ in their first or second character.
  rcases cases_escape a with ⟨letter, hShort, hA⟩ | hA | ⟨⟨-, hBackslash, -⟩, hA⟩ <;>
    rcases cases_escape b with ⟨letter', hShort', hB⟩ | hB | ⟨⟨-, hBackslash', -⟩, hB⟩ <;>
    simp only [hA, hB, List.cons_append, List.nil_append, List.cons.injEq, true_and] at h
  · obtain ⟨rfl, hRest⟩ := h
    exact ⟨shortEscape?_inj hShort hShort', hRest⟩
  · exact absurd h.1 (of_shortEscape? hShort).1
  · exact absurd h.1.symm hBackslash'
  · exact absurd h.1.symm (of_shortEscape? hShort').1
  · exact eq_of_bracedHex_append h
  · exact absurd h.1.symm hBackslash'
  · exact absurd h.1 hBackslash
  · exact absurd h.1 hBackslash
  · exact h

theorem escape_ne_nil (c : Char) : escape c ≠ [] := by
  rcases cases_escape c with ⟨letter, -, hForm⟩ | hForm | ⟨-, hForm⟩ <;> simp [hForm]

/-- A code point in braces is written in printable characters, without quotes and backslashes. -/
theorem of_mem_bracedHex {c written : Char} (h : written ∈ bracedHex c) :
    IsPrintable written ∧ written ≠ '"' ∧ written ≠ '\\' := by
  have hDigits : ∀ d < 16, (0x20 ≤ (Nat.digitChar d).toNat ∧ (Nat.digitChar d).toNat ≤ 0x7E) ∧
      Nat.digitChar d ≠ '"' ∧ Nat.digitChar d ≠ '\\' := by
    decide
  rcases List.mem_cons.1 h with rfl | hBehind
  · exact ⟨isPrintable_of_ascii (by decide), by decide⟩
  · rcases List.mem_append.1 hBehind with hDigit | hBrace
    · obtain ⟨d, hd, rfl⟩ := digitChar_of_mem_toDigits (by decide) hDigit
      exact (hDigits d hd).imp_left isPrintable_of_ascii
    · rw [List.mem_singleton.1 hBrace]
      exact ⟨isPrintable_of_ascii (by decide), by decide⟩

/-- What is written of a character is printable. -/
theorem isPrintable_of_mem_escape {c written : Char} (h : written ∈ escape c) :
    IsPrintable written := by
  have hBackslash : IsPrintable '\\' := isPrintable_of_ascii (by decide)
  rcases cases_escape c with ⟨letter, hShort, hForm⟩ | hForm | ⟨⟨-, -, hPrintable⟩, hForm⟩ <;>
    rw [hForm] at h
  · rcases List.mem_cons.1 h with rfl | hLetter
    · exact hBackslash
    · rw [List.mem_singleton.1 hLetter]
      exact (of_shortEscape? hShort).2
  · rcases List.mem_cons.1 h with rfl | hBehind
    · exact hBackslash
    · rcases List.mem_cons.1 hBehind with rfl | hHex
      · exact isPrintable_of_ascii (by decide)
      · exact (of_mem_bracedHex hHex).1
  · rw [List.mem_singleton.1 h]
    exact hPrintable

end OneCharacter

section WholeText

theorem flatMap_escape_inj {first second : List Char}
    (h : first.flatMap escape = second.flatMap escape) : first = second := by
  induction first generalizing second with
  | nil =>
      cases second with
      | nil => rfl
      | cons b second =>
          have hEmpty := List.append_eq_nil_iff.1 (List.flatMap_cons ▸ h.symm)
          exact absurd hEmpty.1 (escape_ne_nil b)
  | cons a first ih =>
      cases second with
      | nil =>
          have hEmpty := List.append_eq_nil_iff.1 (List.flatMap_cons ▸ h)
          exact absurd hEmpty.1 (escape_ne_nil a)
      | cons b second =>
          rw [List.flatMap_cons, List.flatMap_cons] at h
          obtain ⟨rfl, hRest⟩ := eq_of_escape_append h
          rw [ih hRest]

/-- A quoted text determines the text. -/
theorem quote_inj {first second : List Char} (h : quote first = quote second) : first = second :=
  flatMap_escape_inj (List.append_cancel_right (List.cons.inj h).2)

/-- All that is written of a text is printable. -/
theorem isPrintable_of_mem_quote {text : List Char} {written : Char} (h : written ∈ quote text) :
    IsPrintable written := by
  have hQuote : IsPrintable '"' := isPrintable_of_ascii (by decide)
  rcases List.mem_cons.1 h with rfl | hBehind
  · exact hQuote
  · rcases List.mem_append.1 hBehind with hBody | hEnd
    · obtain ⟨c, -, hWritten⟩ := List.mem_flatMap.1 hBody
      exact isPrintable_of_mem_escape hWritten
    · rw [List.mem_singleton.1 hEnd]
      exact hQuote

end WholeText

section Closing

/-- The number of backslashes that a text ends in. -/
def backslashRun (text : List Char) : Nat :=
  (text.reverse.takeWhile (· == '\\')).length

/-- Whether a character is a backslash that bears on what comes next, after the same question for the
character before it. -/
def bearsOn (pending : Bool) (c : Char) : Bool :=
  !pending && c == '\\'

theorem backslashRun_append (text : List Char) (c : Char) :
    backslashRun (text ++ [c]) = if c = '\\' then backslashRun text + 1 else 0 := by
  rw [backslashRun, List.reverse_append, List.reverse_singleton, List.singleton_append,
    List.takeWhile_cons]
  by_cases h : c = '\\' <;> simp [h, backslashRun]

/-- A run of backslashes is odd exactly if its last one bears on what comes next. -/
theorem backslashRun_odd_iff (text : List Char) :
    backslashRun text % 2 = 1 ↔ text.foldl bearsOn false = true := by
  induction text using List.reverseRecOn with
  | nil => decide
  | append_singleton text c ih =>
      rw [backslashRun_append, List.foldl_append, List.foldl_cons, List.foldl_nil, bearsOn]
      by_cases h : c = '\\'
      · rw [if_pos h, Bool.and_eq_true, Bool.not_eq_true', ← Bool.not_eq_true, ← ih]
        simp only [h, beq_self_eq_true, and_true]
        omega
      · simp [h]

theorem foldl_bearsOn_of_not_mem {text : List Char} (h : '\\' ∉ text) :
    text.foldl bearsOn false = false := by
  induction text with
  | nil => rfl
  | cons c text ih =>
      have hHead : bearsOn false c = false := by
        simpa [bearsOn] using (List.ne_of_not_mem_cons h).symm
      rw [List.foldl_cons, hHead]
      exact ih (List.not_mem_of_not_mem_cons h)

/-- What is written of a character leaves no backslash pending. -/
theorem foldl_bearsOn_escape (c : Char) : (escape c).foldl bearsOn false = false := by
  rcases cases_escape c with ⟨letter, -, hForm⟩ | hForm | ⟨⟨-, hBackslash, -⟩, hForm⟩ <;> rw [hForm]
  · rfl
  · show (bracedHex c).foldl bearsOn false = false
    exact foldl_bearsOn_of_not_mem fun hHex => (of_mem_bracedHex hHex).2.2 rfl
  · exact foldl_bearsOn_of_not_mem fun hMem => hBackslash (List.mem_singleton.1 hMem).symm

/-- The only double quote in what is written of a character stands right behind its backslash. -/
theorem eq_of_escape_eq_append {c : Char} {before after : List Char}
    (h : escape c = before ++ '"' :: after) : before = ['\\'] := by
  rcases cases_escape c with ⟨letter, -, hForm⟩ | hForm | ⟨⟨hQuote, -, -⟩, hForm⟩ <;> rw [hForm] at h
  · cases before with
    | nil => cases h
    | cons first before =>
        obtain ⟨rfl, hRest⟩ := List.cons.inj h
        cases before with
        | nil => rfl
        | cons second before => exact absurd (List.cons.inj hRest).2.symm (by simp)
  · cases before with
    | nil => cases h
    | cons first before =>
        obtain ⟨rfl, hRest⟩ := List.cons.inj h
        have hMem : '"' ∈ 'u' :: bracedHex c := hRest ▸ List.mem_append_right _ List.mem_cons_self
        rcases List.mem_cons.1 hMem with hLetter | hHex
        · exact absurd hLetter (by decide)
        · exact absurd rfl (of_mem_bracedHex hHex).2.1
  · have hMem : '"' ∈ [c] := h ▸ List.mem_append_right _ List.mem_cons_self
    exact absurd (List.mem_singleton.1 hMem).symm hQuote

/-- Of the double quotes in the body of a quoted text and its end, the one at the end is the only one that
does not stand behind an odd run of backslashes. -/
theorem closes_iff {text before after : List Char}
    (h : text.flatMap escape ++ ['"'] = before ++ '"' :: after) :
    backslashRun before % 2 = 0 ↔ after = [] := by
  have hParity : backslashRun before % 2 = 0 ↔ before.foldl bearsOn false = false := by
    rw [← Bool.not_eq_true, ← backslashRun_odd_iff]
    omega
  rw [hParity]
  clear hParity
  induction text generalizing before with
  | nil =>
      cases before with
      | nil => simpa using (List.cons.inj h).2.symm
      | cons first before => exact absurd (List.cons.inj h).2.symm (by simp)
  | cons c text ih =>
      rw [List.flatMap_cons, List.append_assoc] at h
      rcases List.append_eq_append_iff.1 h with ⟨more, rfl, hRest⟩ | ⟨more, hForm, hRest⟩
      · -- The quote stands behind what is written of the first character.
        rw [List.foldl_append, foldl_bearsOn_escape]
        exact ih hRest
      · cases more with
        | nil =>
            rw [List.append_nil] at hForm
            rw [← hForm, foldl_bearsOn_escape]
            exact @ih [] hRest.symm
        | cons quotation more =>
            -- It is part of it, so it is escaped, and the end is still to come.
            obtain ⟨rfl, rfl⟩ := List.cons.inj hRest
            rw [eq_of_escape_eq_append hForm]
            simp [bearsOn]

end Closing

end FlatArith.Text
