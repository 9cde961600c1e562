import FlatArith.Proofs.CalculationFailures
import FlatArith.Proofs.CheckOrder
import FlatArith.Proofs.Messages

/-!
# No argument breaks out of a message

A failed calculation reports its length, a division, or one of its arguments with the position
(`exists_found_of_calculate`).  The wording of a message is printable, and so are numerals, the texts of
numbers and quoted texts.  Hence the whole message is (`allPrintable_message`), whatever characters the
arguments hold.

A text that is reported stands quoted at the end of the message.  The double quote that closes it is the
last character, and no quote before it could be taken for it (`endsQuoted_described`).
-/

namespace FlatArith

namespace Text

/-- Every character is printable. -/
def AllPrintable (s : String) : Prop :=
  ∀ c ∈ s.toList, IsPrintable c

theorem AllPrintable.append {s t : String} (hs : AllPrintable s) (ht : AllPrintable t) :
    AllPrintable (s ++ t) := by
  intro c hc
  rw [String.toList_append] at hc
  exact (List.mem_append.1 hc).elim (hs c) (ht c)

theorem allPrintable_of_ascii {l : List Char}
    (h : l.all (fun c => 0x20 ≤ c.toNat && c.toNat ≤ 0x7E) = true) :
    AllPrintable (String.ofList l) := by
  intro c hc
  rw [String.toList_ofList] at hc
  exact isPrintable_of_ascii (by simpa using List.all_eq_true.1 h c hc)

theorem isPrintable_of_isDigit {c : Char} (h : c.isDigit = true) : IsPrintable c := by
  have hRange : 48 ≤ c.toNat ∧ c.toNat ≤ 57 := Char.isDigit_iff_toNat.1 h
  exact isPrintable_of_ascii ⟨by omega, by omega⟩

theorem allPrintable_toString (n : Nat) : AllPrintable (toString n) := by
  intro c hc
  rw [Failure.toList_toString] at hc
  exact isPrintable_of_isDigit (Nat.isDigit_of_mem_toDigits (by decide) (by decide) hc)

theorem allPrintable_number (x : Float) : AllPrintable (Number.text x) := by
  rcases Number.cases_text x with hName | hName | hName | hPlain
  · rw [hName]
    exact allPrintable_of_ascii (by decide)
  · rw [hName]
    exact allPrintable_of_ascii (by decide)
  · rw [hName]
    exact allPrintable_of_ascii (by decide)
  · intro c hc
    rcases hPlain c hc with hDigit | rfl | rfl
    · exact isPrintable_of_isDigit hDigit
    · exact isPrintable_of_ascii (by decide)
    · exact isPrintable_of_ascii (by decide)

theorem allPrintable_quote (text : List Char) : AllPrintable (String.ofList (quote text)) := by
  intro c hc
  rw [String.toList_ofList] at hc
  exact isPrintable_of_mem_quote hc

/-- The text ends in a double quote, some characters and a double quote, and of all double quotes behind
the first one only the last does not stand behind an odd run of backslashes. -/
def EndsQuoted (s : String) (opening body : List Char) : Prop :=
  s.toList = opening ++ '"' :: (body ++ ['"']) ∧
    ∀ before after, body ++ ['"'] = before ++ '"' :: after →
      (backslashRun before % 2 = 0 ↔ after = [])

theorem endsQuoted_quote (text : List Char) :
    EndsQuoted (String.ofList (quote text)) [] (text.flatMap escape) :=
  ⟨String.toList_ofList, fun _ _ => closes_iff⟩

/-- The quoted end of a text is that of any text that ends in it. -/
theorem EndsQuoted.append {s : String} {opening body : List Char} (h : EndsQuoted s opening body)
    (wording : String) : EndsQuoted (wording ++ s) (wording.toList ++ opening) body :=
  ⟨by rw [String.toList_append, h.1, List.append_assoc], h.2⟩

end Text

namespace Argument

theorem allPrintable_described (argument : Argument) : Text.AllPrintable argument.described := by
  refine Text.AllPrintable.append (.append ?_ (Text.allPrintable_of_ascii (by decide))) ?_
  · cases argument with
    | number n => exact Text.allPrintable_of_ascii (by decide)
    | text s => exact Text.allPrintable_of_ascii (by decide)
  · cases argument with
    | number n => exact Text.allPrintable_number n
    | text s => exact Text.allPrintable_quote s.toList

/-- A text is described by its kind and its quoted characters. -/
theorem endsQuoted_described (s : String) :
    Text.EndsQuoted (text s).described "string ".toList (s.toList.flatMap Text.escape) := by
  have h := (Text.endsQuoted_quote s.toList).append "string "
  rwa [List.append_nil] at h

end Argument

namespace Failure

/-- The found text is the end of a message, behind wording that is printable. -/
theorem message_of_positioned {failure : Failure} {position : Nat} {found : String}
    (h : failure = notNumber position found ∨ failure = notOperator position found) :
    ∃ wording, Text.AllPrintable wording ∧ failure.message = wording ++ found := by
  rcases h with rfl | rfl
  all_goals
    refine ⟨_, Text.AllPrintable.append (.append ?_ (Text.allPrintable_toString position)) ?_, rfl⟩
    · exact Text.allPrintable_of_ascii (by decide +kernel)
    · exact Text.allPrintable_of_ascii (by decide +kernel)

/-- Nothing in a message is unprintable unless what was found is. -/
theorem allPrintable_message {failure : Failure}
    (h : ∀ position found, failure = notNumber position found ∨ failure = notOperator position found →
      Text.AllPrintable found) : Text.AllPrintable failure.message := by
  cases failure with
  | malformed length =>
      unfold message
      dsimp only
      exact (Text.allPrintable_of_ascii (by decide +kernel)).append (Text.allPrintable_toString length)
  | notNumber position found =>
      obtain ⟨wording, hWording, hMessage⟩ := message_of_positioned (.inl rfl)
      rw [hMessage]
      exact hWording.append (h position found (.inl rfl))
  | notOperator position found =>
      obtain ⟨wording, hWording, hMessage⟩ := message_of_positioned (.inr rfl)
      rw [hMessage]
      exact hWording.append (h position found (.inr rfl))
  | divisionByZero => exact Text.allPrintable_of_ascii (by decide +kernel)

end Failure

namespace Calculator

variable (c : Calculator) {arguments : List Argument} {failure : Failure}

/-- What a calculation reports as found is the argument at the reported position. -/
theorem exists_found_of_calculate (h : c.calculate arguments = .error failure) {position : Nat}
    {found : String}
    (hFound : failure = .notNumber position found ∨ failure = .notOperator position found) :
    ∃ argument, arguments[position]? = some argument ∧ found = argument.described := by
  rcases (c.calculate_eq_error_iff arguments failure).1 h with hRejected | ⟨-, -, rfl⟩
  · rcases validate_eq_error_iff.1 hRejected with ⟨-, rfl⟩ |
      ⟨-, ⟨place, argument, hFirst, rfl⟩ | ⟨-, place, argument, hFirst, rfl⟩⟩
    · simp at hFound
    · obtain ⟨rfl, rfl⟩ : place = position ∧ argument.described = found := by
        simpa [Failure.badOperand] using hFound
      exact ⟨argument, hFirst.stands, rfl⟩
    · obtain ⟨rfl, rfl⟩ : place = position ∧ argument.described = found := by
        simpa [Failure.badOperator] using hFound
      exact ⟨argument, hFirst.stands, rfl⟩
  · simp at hFound

/-- Whatever the arguments hold, the message of a calculation that fails is printable, so it has no line
break and no control character.  What it reports as found is an argument.  If that is a text, it is shown
between double quotes, and the one that closes it is the last character of the message: any double quote
before it stands behind an odd run of backslashes. -/
theorem calculate_message_contained (h : c.calculate arguments = .error failure) :
    (∀ written ∈ failure.message.toList,
        ¬ Text.IsLineBreak written ∧ ¬ Text.IsControl written ∧ Text.IsPrintable written) ∧
      ∀ position found, failure = .notNumber position found ∨ failure = .notOperator position found →
        ∃ argument, arguments[position]? = some argument ∧ found = argument.described ∧
          ∀ s, argument = .text s → ∃ opening body,
            found.toList = "string ".toList ++ '"' :: (body ++ ['"']) ∧
              Text.EndsQuoted failure.message opening body := by
  refine ⟨fun written hWritten => ?_, fun position found hFound => ?_⟩
  · have hPrintable : Text.AllPrintable failure.message :=
      Failure.allPrintable_message fun position found hFound => by
        obtain ⟨argument, -, rfl⟩ := c.exists_found_of_calculate h hFound
        exact argument.allPrintable_described
    have hOne := hPrintable written hWritten
    exact ⟨hOne.not_isLineBreak, hOne.not_isControl, hOne⟩
  · obtain ⟨argument, hStands, rfl⟩ := c.exists_found_of_calculate h hFound
    refine ⟨argument, hStands, rfl, ?_⟩
    rintro s rfl
    obtain ⟨wording, -, hMessage⟩ := Failure.message_of_positioned hFound
    rw [hMessage]
    have hQuoted := Argument.endsQuoted_described s
    exact ⟨_, _, hQuoted.1, hQuoted.append wording⟩

/-- A text with a quote and a line feed, and a backslash at its end, in the place of an operator. -/
theorem calculate_message_contained_quotation :
    standard.calculate [.number 1, .text "\"\nrejected \\", .number 2] =
        .error (.badOperator 1 (.text "\"\nrejected \\")) ∧
      ∃ opening body, Text.EndsQuoted
        (Failure.badOperator 1 (.text "\"\nrejected \\")).message opening body := by
  have hFails : standard.calculate [.number 1, .text "\"\nrejected \\", .number 2] =
      .error (.badOperator 1 (.text "\"\nrejected \\")) := by
    decide +kernel
  refine ⟨hFails, ?_⟩
  obtain ⟨argument, hStands, -, hText⟩ :=
    (standard.calculate_message_contained hFails).2 1 _ (.inr rfl)
  obtain ⟨opening, body, -, hEnds⟩ := hText _ (Option.some.inj hStands).symm
  exact ⟨opening, body, hEnds⟩

end Calculator

end FlatArith
