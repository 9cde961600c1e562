import FlatArith.Token

/-!
# Chains

A chain is a first element followed by further elements, each joined to what stands before it by an
operator.  A chain of numbers is the shape of a well-formed expression: `Chain.tokens` writes it down
and `Chain.ofTokens?` reads it back, and exactly the well-formed lists of tokens can be read
(`isSome_ofTokens?_iff`).

A chain has no tree structure of its own.  `Chain.fold` and `Chain.foldM` combine its elements from left
to right.
-/

namespace FlatArith

/-- Elements joined by operators, at least one. -/
structure Chain (α : Type) where
  head : α
  tail : List (Operator × α)
  deriving BEq, Repr

namespace Chain

/-- The elements of a chain, from left to right. -/
def elements {α : Type} (chain : Chain α) : List α :=
  chain.head :: chain.tail.map Prod.snd

/-- The operators of a chain, from left to right. -/
def operators {α : Type} (chain : Chain α) : List Operator :=
  chain.tail.map Prod.fst

/-- The chain with another element in each place and the same operators. -/
def map {α β : Type} (f : α → β) (chain : Chain α) : Chain β where
  head := f chain.head
  tail := chain.tail.map fun link => (link.1, f link.2)

/-- The chain of the results of computations, which are made from left to right. -/
def mapM {m : Type → Type} {α β : Type} [Monad m] (f : α → m β) (chain : Chain α) : m (Chain β) := do
  let head ← f chain.head
  let tail ← chain.tail.mapM fun link => do return (link.1, ← f link.2)
  return ⟨head, tail⟩

/-- Combines the elements from left to right. -/
def fold {α : Type} (f : Operator → α → α → α) (chain : Chain α) : α :=
  chain.tail.foldl (fun left link => f link.1 left link.2) chain.head

/-- Combines the elements from left to right by a computation. -/
def foldM {m : Type → Type} {α : Type} [Monad m] (f : Operator → α → α → m α) (chain : Chain α) :
    m α :=
  chain.tail.foldlM (fun left link => f link.1 left link.2) chain.head

/-- The tokens of the links of a chain. -/
def linkTokens : List (Operator × Float) → List Token
  | [] => []
  | (op, n) :: rest => .operator op :: .number n :: linkTokens rest

/-- The tokens of a chain of numbers. -/
def tokens (chain : Chain Float) : List Token :=
  .number chain.head :: linkTokens chain.tail

/-- Reads links, each an operator and a number, to the end of the tokens. -/
def linksOfTokens? : List Token → Option (List (Operator × Float))
  | [] => some []
  | .operator op :: .number n :: rest => (linksOfTokens? rest).map ((op, n) :: ·)
  | _ => none

/-- Reads a chain of numbers. -/
def ofTokens? : List Token → Option (Chain Float)
  | .number n :: rest => (linksOfTokens? rest).map (⟨n, ·⟩)
  | _ => none

theorem linksOfTokens?_linkTokens (links : List (Operator × Float)) :
    linksOfTokens? (linkTokens links) = some links := by
  induction links with
  | nil => rfl
  | cons link rest ih => simp [linkTokens, linksOfTokens?, ih]

@[simp] theorem ofTokens?_tokens (chain : Chain Float) : ofTokens? chain.tokens = some chain := by
  simp [tokens, ofTokens?, linksOfTokens?_linkTokens]

theorem eq_linkTokens_of_linksOfTokens? {tokens : List Token} {links : List (Operator × Float)}
    (h : linksOfTokens? tokens = some links) : tokens = linkTokens links := by
  fun_induction linksOfTokens? tokens generalizing links with
  | case1 => cases h; rfl
  | case2 op n rest ih =>
      obtain ⟨later, hLater, rfl⟩ := Option.map_eq_some_iff.1 h
      rw [ih hLater, linkTokens]
  | case3 => cases h

/-- The tokens of a chain determine it. -/
theorem tokens_injective {first second : Chain Float} (h : first.tokens = second.tokens) :
    first = second := by
  have hRead := congrArg ofTokens? h
  simpa using hRead

/-- A list of tokens reads as a chain exactly when it is what the chain is written as. -/
theorem ofTokens?_eq_some_iff {tokens : List Token} {chain : Chain Float} :
    ofTokens? tokens = some chain ↔ tokens = chain.tokens := by
  constructor
  · intro h
    unfold ofTokens? at h
    split at h
    · obtain ⟨links, hLinks, rfl⟩ := Option.map_eq_some_iff.1 h
      rw [eq_linkTokens_of_linksOfTokens? hLinks, Chain.tokens]
    · cases h
  · rintro rfl
    exact ofTokens?_tokens chain

theorem isSome_linksOfTokens?_iff (tokens : List Token) :
    (linksOfTokens? tokens).isSome ↔ Token.WellFormedFrom .operator tokens := by
  fun_induction linksOfTokens? tokens with
  | case1 => simp [Token.WellFormedFrom]
  | case2 op n rest ih => simpa [Token.WellFormedFrom, Slot.Fits, Slot.other] using ih
  | case3 tokens hNil hLink =>
      cases tokens with
      | nil => exact absurd rfl hNil
      | cons token rest =>
          cases token with
          | number n => simp [Token.WellFormedFrom, Slot.Fits]
          | operator op =>
              cases rest with
              | nil => simp [Token.WellFormedFrom, Slot.other]
              | cons next rest =>
                  cases next with
                  | number n => exact absurd rfl (hLink op n rest)
                  | operator _ => simp [Token.WellFormedFrom, Slot.Fits, Slot.other]

/-- Exactly the well-formed lists of tokens read as chains. -/
theorem isSome_ofTokens?_iff (tokens : List Token) :
    (ofTokens? tokens).isSome ↔ Token.WellFormed tokens := by
  cases tokens with
  | nil => simp [ofTokens?, Token.WellFormed, Token.WellFormedFrom]
  | cons token rest =>
      cases token with
      | number n =>
          simpa [ofTokens?, Token.WellFormed, Token.WellFormedFrom, Slot.Fits, Slot.other] using
            isSome_linksOfTokens?_iff rest
      | operator op => simp [ofTokens?, Token.WellFormed, Token.WellFormedFrom, Slot.Fits]

/-- A list of tokens is well formed exactly when it is what some chain is written as. -/
theorem wellFormed_iff_exists_tokens {tokens : List Token} :
    Token.WellFormed tokens ↔ ∃ chain : Chain Float, tokens = chain.tokens := by
  rw [← isSome_ofTokens?_iff, Option.isSome_iff_exists]
  simp only [ofTokens?_eq_some_iff]

end Chain

end FlatArith
