import FlatArith.Proofs.ZeroDivisors

/-!
# Tokens by position

The slots of a list of tokens alternate, so the slot of a position is given by its parity.  This module
says by positions what well-formed lists (`wellFormed_iff`), misplaced tokens and zero divisors are, and
how the positions of a chain's tokens correspond to its links.

`Token.cases_blocked` takes a list of tokens apart at its first fault: what stands before it is a chain of
numbers and one more operator, or nothing.
-/

namespace FlatArith

namespace Slot

/-- The slot some steps after a slot. -/
def after (slot : Slot) (steps : Nat) : Slot :=
  if steps % 2 = 0 then slot else slot.other

@[simp] theorem after_zero (slot : Slot) : slot.after 0 = slot := rfl

theorem after_succ (slot : Slot) (steps : Nat) : slot.after (steps + 1) = slot.other.after steps := by
  unfold after
  rcases Nat.mod_two_eq_zero_or_one steps with h | h
  · have hNext : ¬ (steps + 1) % 2 = 0 := by omega
    rw [if_neg hNext, if_pos h]
  · have hNext : (steps + 1) % 2 = 0 := by omega
    have hThis : ¬ steps % 2 = 0 := by omega
    rw [if_pos hNext, if_neg hThis, other_other]

theorem other_after (slot : Slot) (steps : Nat) : (slot.after steps).other = slot.after (steps + 1) := by
  rw [after_succ]
  unfold after
  split <;> rfl

theorem after_add_of_even (slot : Slot) {steps : Nat} (h : steps % 2 = 0) (more : Nat) :
    slot.after (steps + more) = slot.after more := by
  unfold after
  rw [Nat.add_mod, h, Nat.zero_add, Nat.mod_mod]

end Slot

namespace Token

/-- The token at a position does not fit the slot there.  The even positions are the operand slots. -/
def MisplacedAt (tokens : List Token) (position : Nat) : Prop :=
  ∃ token, tokens[position]? = some token ∧ ¬ (Slot.operand.after position).Fits token

/-- The first token that does not fit its slot stands at the position. -/
structure FirstMisplacedAt (tokens : List Token) (position : Nat) : Prop where
  misplaced : MisplacedAt tokens position
  first : ∀ earlier < position, ¬ MisplacedAt tokens earlier

/-- A division sign stands at the position and zero right after it. -/
def ZeroDivisorAt (tokens : List Token) (position : Nat) : Prop :=
  tokens[position]? = some (.operator .divide) ∧
    ∃ n, tokens[position + 1]? = some (.number n) ∧ IsZero n

/-- The first tokens of a list decide about the zero divisors among them. -/
theorem zeroDivisorAt_take {tokens : List Token} {position length : Nat}
    (h : position + 1 < length) :
    ZeroDivisorAt (tokens.take length) position ↔ ZeroDivisorAt tokens position := by
  unfold ZeroDivisorAt
  rw [List.getElem?_take_of_lt (Nat.lt_of_succ_lt h), List.getElem?_take_of_lt h]

theorem wellFormedFrom_iff (slot : Slot) (tokens : List Token) :
    WellFormedFrom slot tokens ↔
      (∀ position token, tokens[position]? = some token → (slot.after position).Fits token) ∧
        slot.after tokens.length = .operator := by
  induction tokens generalizing slot with
  | nil => simp [WellFormedFrom]
  | cons first rest ih =>
      rw [WellFormedFrom, ih, List.length_cons, Slot.after_succ]
      constructor
      · rintro ⟨hFirst, hRest, hEnd⟩
        refine ⟨fun position token hToken => ?_, hEnd⟩
        cases position with
        | zero => cases hToken; exact hFirst
        | succ position =>
            rw [Slot.after_succ]
            exact hRest position token hToken
      · rintro ⟨hAll, hEnd⟩
        refine ⟨hAll 0 first rfl, fun position token hToken => ?_, hEnd⟩
        rw [← Slot.after_succ]
        exact hAll (position + 1) token hToken

/-- A list of tokens is well formed exactly when its length is odd and no token is misplaced. -/
theorem wellFormed_iff (tokens : List Token) :
    WellFormed tokens ↔
      tokens.length % 2 = 1 ∧ ∀ position, ¬ MisplacedAt tokens position := by
  have hEnd : Slot.operand.after tokens.length = .operator ↔ tokens.length % 2 = 1 := by
    unfold Slot.after
    rcases Nat.mod_two_eq_zero_or_one tokens.length with h | h
    · simp [h]
    · simp [h, Slot.other]
  rw [WellFormed, wellFormedFrom_iff, hEnd, and_comm]
  refine and_congr_right fun _ => ?_
  constructor
  · rintro hAll position ⟨token, hToken, hMisplaced⟩
    exact hMisplaced (hAll position token hToken)
  · intro hNone position token hToken
    by_contra hMisplaced
    exact hNone position ⟨token, hToken, hMisplaced⟩

/-- The operators of a well-formed list stand at odd positions. -/
theorem odd_of_operator {tokens : List Token} (h : WellFormed tokens) {position : Nat}
    {op : Operator} (hOperator : tokens[position]? = some (.operator op)) : position % 2 = 1 := by
  by_contra hEven
  refine ((wellFormed_iff tokens).1 h).2 position ⟨_, hOperator, ?_⟩
  have hSlot : Slot.operand.after position = .operand := if_pos (by omega)
  rw [hSlot]
  exact id

/-- Tokens at the beginning of a suffix stand side by side in the list. -/
theorem exists_position_of_suffix {tokens rest : List Token} {token following : Token}
    (h : token :: following :: rest <:+ tokens) :
    ∃ position, tokens[position]? = some token ∧ tokens[position + 1]? = some following := by
  obtain ⟨opened, rfl⟩ := h
  exact ⟨opened.length, by simp, by simp⟩

/-- Behind an even number of tokens the positions keep their slots. -/
theorem misplacedAt_append {opened : List Token} (h : opened.length % 2 = 0) (rest : List Token)
    (position : Nat) :
    MisplacedAt (opened ++ rest) (opened.length + position) ↔ MisplacedAt rest position := by
  unfold MisplacedAt
  rw [List.getElem?_append_right (Nat.le_add_right _ _), Nat.add_sub_cancel_left,
    Slot.after_add_of_even _ h]

/-- What stands behind a position does not decide whether the token there is misplaced. -/
theorem misplacedAt_append_of_lt {opened : List Token} {position : Nat}
    (h : position < opened.length) (rest : List Token) :
    MisplacedAt (opened ++ rest) position ↔ MisplacedAt opened position := by
  unfold MisplacedAt
  rw [List.getElem?_append_left h]

/-- The first or the second token does not fit its slot. -/
inductive Blocked : List Token → Prop
  | operator (op : Operator) (rest : List Token) : Blocked (.operator op :: rest)
  | number (n m : Float) (rest : List Token) : Blocked (.number n :: .number m :: rest)

theorem Blocked.exists_firstMisplacedAt {tokens : List Token} (h : Blocked tokens) :
    ∃ position ≤ 1, FirstMisplacedAt tokens position := by
  cases h with
  | operator op rest =>
      exact ⟨0, Nat.zero_le 1, ⟨_, rfl, id⟩, fun earlier hEarlier => absurd hEarlier (Nat.not_lt_zero _)⟩
  | number n m rest =>
      refine ⟨1, Nat.le_refl 1, ⟨_, rfl, id⟩, ?_⟩
      rintro earlier hEarlier ⟨token, hToken, hMisplaced⟩
      obtain rfl : earlier = 0 := by omega
      cases hToken
      exact hMisplaced trivial

/-- Every list of tokens that is no chain of numbers stops or is blocked at once or behind a chain of
numbers with an operator after it. -/
theorem cases_blocked (tokens : List Token) :
    tokens = [] ∨ Blocked tokens ∨ (∃ chain : Chain Float, tokens = chain.tokens) ∨
      ∃ (chain : Chain Float) (op : Operator) (rest : List Token),
        tokens = chain.tokens ++ .operator op :: rest ∧ (rest = [] ∨ Blocked rest) := by
  match tokens with
  | [] => exact .inl rfl
  | .operator op :: rest => exact .inr (.inl (.operator op rest))
  | [.number n] => exact .inr (.inr (.inl ⟨⟨n, []⟩, rfl⟩))
  | .number n :: .number m :: rest => exact .inr (.inl (.number n m rest))
  | .number n :: .operator op :: rest =>
      -- Behind an operator the rest is taken apart alike, and the two tokens lengthen what it finds.
      rcases cases_blocked rest with hNil | hBlocked | ⟨⟨head, tail⟩, hChain⟩ |
        ⟨⟨head, tail⟩, last, later, hChain, hLater⟩
      · exact .inr (.inr (.inr ⟨⟨n, []⟩, op, rest, rfl, .inl hNil⟩))
      · exact .inr (.inr (.inr ⟨⟨n, []⟩, op, rest, rfl, .inr hBlocked⟩))
      · exact .inr (.inr (.inl ⟨⟨n, (op, head) :: tail⟩, by rw [hChain]; rfl⟩))
      · exact .inr (.inr (.inr ⟨⟨n, (op, head) :: tail⟩, last, later, by rw [hChain]; rfl, hLater⟩))

end Token

namespace Chain

theorem length_linkTokens (links : List (Operator × Float)) :
    (linkTokens links).length = 2 * links.length := by
  induction links with
  | nil => rfl
  | cons link rest ih =>
      simp only [linkTokens, List.length_cons, ih]
      omega

theorem length_tokens (chain : Chain Float) : chain.tokens.length = 2 * chain.tail.length + 1 := by
  rw [tokens, List.length_cons, length_linkTokens]

/-- The tokens of a link are its operator and its number. -/
theorem getElem?_linkTokens (links : List (Operator × Float)) (k : Nat) :
    (linkTokens links)[2 * k]? = links[k]?.map (fun link => .operator link.1) ∧
      (linkTokens links)[2 * k + 1]? = links[k]?.map (fun link => .number link.2) := by
  induction links generalizing k with
  | nil => exact ⟨rfl, rfl⟩
  | cons link rest ih =>
      cases k with
      | zero => exact ⟨rfl, rfl⟩
      | succ k => exact ih k

/-- The zero divisors of a chain are those among its tokens. -/
theorem zeroDivisorAt_tokens_iff (chain : Chain Float) (k : Nat) :
    Token.ZeroDivisorAt chain.tokens (2 * k + 1) ↔
      ∃ link, chain.tail[k]? = some link ∧ Calculator.dividesByZero link.1 link.2 = true := by
  -- The first token is the head of the chain, so the operator of link `k` stands at `2 * k + 1`.
  obtain ⟨hOperator, hNumber⟩ := getElem?_linkTokens chain.tail k
  unfold Token.ZeroDivisorAt
  simp only [tokens, List.getElem?_cons_succ, hOperator, hNumber, Option.map_eq_some_iff,
    Token.operator.injEq, Token.number.injEq, Calculator.dividesByZero_iff]
  constructor
  · rintro ⟨⟨link, hLink, hDivide⟩, n, ⟨same, hSame, rfl⟩, hZero⟩
    obtain rfl : link = same := Option.some.inj (hLink.symm.trans hSame)
    exact ⟨link, hLink, hDivide, hZero⟩
  · rintro ⟨link, hLink, hDivide, hZero⟩
    exact ⟨⟨link, hLink, hDivide⟩, link.2, ⟨link, hLink, rfl⟩, hZero⟩

/-- The zero divisors of a chain by position, in a list of tokens that may go on behind the chain. -/
theorem exists_zeroDivisorAt_iff (chain : Chain Float) (rest : List Token) :
    (∃ m, m % 2 = 1 ∧ m + 1 < chain.tokens.length ∧
        Token.ZeroDivisorAt (chain.tokens ++ rest) m) ↔ chain.HasZeroDivisor := by
  have hAppend : ∀ m, m + 1 < chain.tokens.length →
      (Token.ZeroDivisorAt (chain.tokens ++ rest) m ↔ Token.ZeroDivisorAt chain.tokens m) := by
    intro m hm
    unfold Token.ZeroDivisorAt
    rw [List.getElem?_append_left (Nat.lt_of_succ_lt hm), List.getElem?_append_left hm]
  constructor
  · rintro ⟨m, hOdd, hInside, hZero⟩
    obtain ⟨k, rfl⟩ : ∃ k, m = 2 * k + 1 := ⟨m / 2, by omega⟩
    rw [hAppend _ hInside, zeroDivisorAt_tokens_iff] at hZero
    obtain ⟨link, hLink, hDivides⟩ := hZero
    exact ⟨link, List.mem_of_getElem? hLink, hDivides⟩
  · rintro ⟨link, hLink, hDivides⟩
    obtain ⟨k, hk⟩ := List.mem_iff_getElem?.1 hLink
    have hIndex : k < chain.tail.length := (List.getElem?_eq_some_iff.1 hk).1
    have hInside : 2 * k + 1 + 1 < chain.tokens.length := by
      rw [length_tokens]
      omega
    refine ⟨2 * k + 1, by omega, hInside, ?_⟩
    rw [hAppend _ hInside, zeroDivisorAt_tokens_iff]
    exact ⟨link, hk, hDivides⟩

/-- Inside a chain of numbers every division by zero stands at an odd position. -/
theorem exists_zeroDivisorAt_tokens_iff (chain : Chain Float) :
    (∃ position, Token.ZeroDivisorAt chain.tokens position) ↔ chain.HasZeroDivisor := by
  rw [← chain.exists_zeroDivisorAt_iff [], List.append_nil]
  constructor
  · rintro ⟨position, hZero⟩
    have hDivide := hZero.1
    obtain ⟨n, hNumber, -⟩ := hZero.2
    have hInside := (List.getElem?_eq_some_iff.1 hNumber).1
    have hWellFormed := wellFormed_iff_exists_tokens.2 ⟨chain, rfl⟩
    exact ⟨position, Token.odd_of_operator hWellFormed hDivide, hInside, hZero⟩
  · rintro ⟨position, -, -, hZero⟩
    exact ⟨position, hZero⟩

theorem not_hasZeroDivisor_of_tokens {chain : Chain Float}
    (h : ∀ position, ¬ Token.ZeroDivisorAt chain.tokens position) : ¬ chain.HasZeroDivisor :=
  mt chain.exists_zeroDivisorAt_tokens_iff.2 (not_exists.2 h)

/-- No token of a chain with an operator after it is misplaced, whatever follows. -/
theorem not_misplacedAt_operator (chain : Chain Float) (op : Operator) (rest : List Token)
    {position : Nat} (h : position < chain.tokens.length + 1) :
    ¬ Token.MisplacedAt (chain.tokens ++ .operator op :: rest) position := by
  have hOdd : chain.tokens.length % 2 = 1 := by
    rw [length_tokens]
    omega
  rcases Nat.lt_succ_iff_lt_or_eq.1 h with hChain | rfl
  · rw [Token.misplacedAt_append_of_lt hChain]
    exact ((Token.wellFormed_iff _).1 (wellFormed_iff_exists_tokens.2 ⟨chain, rfl⟩)).2 position
  · rintro ⟨token, hToken, hMisplaced⟩
    rw [List.getElem?_append_right (Nat.le_refl _), Nat.sub_self] at hToken
    cases hToken
    rw [Slot.after, if_neg (by omega)] at hMisplaced
    exact hMisplaced trivial

/-- A fault behind a chain and an operator is the first one. -/
theorem firstMisplacedAt_operator (chain : Chain Float) (op : Operator) {rest : List Token}
    {position : Nat} (h : Token.FirstMisplacedAt rest position) :
    Token.FirstMisplacedAt (chain.tokens ++ .operator op :: rest)
      (chain.tokens.length + 1 + position) := by
  -- A chain and an operator have an even length, so the slots behind them start anew.
  have hEven : (chain.tokens ++ [Token.operator op]).length % 2 = 0 := by
    rw [List.length_append, length_tokens, List.length_singleton]
    omega
  have hRest : ∀ later, Token.MisplacedAt (chain.tokens ++ .operator op :: rest)
      (chain.tokens.length + 1 + later) ↔ Token.MisplacedAt rest later := by
    intro later
    have hAppend := Token.misplacedAt_append hEven rest later
    rwa [List.append_assoc, List.length_append, List.length_singleton] at hAppend
  refine ⟨(hRest position).2 h.misplaced, fun earlier hEarlier => ?_⟩
  by_cases hOpened : earlier < chain.tokens.length + 1
  · exact chain.not_misplacedAt_operator op rest hOpened
  · obtain ⟨later, rfl⟩ := Nat.exists_eq_add_of_le (Nat.le_of_not_lt hOpened)
    rw [hRest later]
    exact h.first later (by omega)

end Chain

end FlatArith
