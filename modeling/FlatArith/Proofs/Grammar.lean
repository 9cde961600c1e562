import FlatArith.Proofs.Frames
import FlatArith.Terms

/-!
# The machine evaluates sums of terms

The grammar of an expression has terms below sums; the machine has one pass over the tokens and two
stacks.  This module proves that they agree.

While the machine reads a chain of numbers, its frames are those of the term under way above those of
the sum under way.  `run_links` carries this through the chain: what the machine has done before a token
that forces the last term is to evaluate the terms one by one and to add each to the sum before the
next one is evaluated, which is `Calculator.readTerms`.

The grammar evaluates all terms first.  The order makes no difference, because an addition and a
subtraction never fail (`sumLinks_eq`).
-/

namespace FlatArith

namespace Operator

theorem rank_of_isAdditive {op : Operator} (h : op.isAdditive = true) : op.rank = 1 :=
  beq_iff_eq.1 (op.isAdditive_eq_rank ▸ h)

theorem rank_of_not_isAdditive {op : Operator} (h : op.isAdditive = false) : op.rank = 2 := by
  cases op with
  | plus | minus => cases h
  | times | divide => rfl

theorem rank_le_two (op : Operator) : op.rank ≤ 2 := by
  cases op <;> decide

end Operator

/-- The frames are those of a sum under way: their operators are additive. -/
def IsSum (frames : List Frame) : Prop :=
  ∀ frame ∈ frames, frame.operator.isAdditive = true

/-- The frames are those of a term under way: their operators are multiplicative. -/
def IsTerm (frames : List Frame) : Prop :=
  ∀ frame ∈ frames, frame.operator.isAdditive = false

theorem IsSum.nil : IsSum [] := fun _ hFrame => absurd hFrame List.not_mem_nil

theorem IsSum.singleton {op : Operator} (h : op.isAdditive = true) (n : Float) :
    IsSum [⟨n, op⟩] := fun _ hFrame => by
  rwa [List.mem_singleton.1 hFrame]

theorem IsTerm.nil : IsTerm [] := fun _ hFrame => absurd hFrame List.not_mem_nil

theorem IsTerm.singleton {op : Operator} (h : op.isAdditive = false) (n : Float) :
    IsTerm [⟨n, op⟩] := fun _ hFrame => by
  rwa [List.mem_singleton.1 hFrame]

/-- A term binds at least as tightly as any operator. -/
theorem IsTerm.rank_le {term : List Frame} (h : IsTerm term) (op : Operator) :
    ∀ frame ∈ term, op.rank ≤ frame.operator.rank := by
  intro frame hFrame
  rw [Operator.rank_of_not_isAdditive (h frame hFrame)]
  exact op.rank_le_two

/-- A sum binds less tightly than a multiplicative operator. -/
theorem IsSum.rank_lt {sum : List Frame} (h : IsSum sum) {op : Operator}
    (hOp : op.isAdditive = false) : ∀ frame ∈ sum, frame.operator.rank < op.rank := by
  intro frame hFrame
  rw [Operator.rank_of_isAdditive (h frame hFrame), Operator.rank_of_not_isAdditive hOp]
  exact Nat.one_lt_two

namespace Chain

variable {α : Type}

/-- An additive operator begins a new term. -/
theorem cutLinks_cons_of_isAdditive {op : Operator} (h : op.isAdditive = true) (a : α)
    (rest : List (Operator × α)) :
    cutLinks ((op, a) :: rest) = ([], (op, ⟨a, (cutLinks rest).1⟩) :: (cutLinks rest).2) :=
  if_pos h

/-- A multiplicative operator continues the term under way. -/
theorem cutLinks_cons_of_not_isAdditive {op : Operator} (h : op.isAdditive = false) (a : α)
    (rest : List (Operator × α)) :
    cutLinks ((op, a) :: rest) = ((op, a) :: (cutLinks rest).1, (cutLinks rest).2) := by
  simp only [cutLinks, h, Bool.false_eq_true, if_false]

end Chain

namespace Calculator

variable (c : Calculator)

/-- An addition or a subtraction has a value. -/
theorem exists_apply_of_isAdditive {op : Operator} (h : op.isAdditive = true) (left right : Float) :
    ∃ result, c.apply op left right = .ok result := by
  cases op with
  | plus | minus => exact ⟨_, rfl⟩
  | times | divide => cases h

/-- Ends the term under way and evaluates the next one.  The first component of the state is the frames
of the sum, the second the value of the term. -/
def nextTerm (state : List Frame × Float) (link : Operator × Chain Float) :
    Run (List Frame × Float) := do
  let sum ← c.close state.1 state.2
  let value ← link.2.foldM c.perform
  return ([⟨sum, link.1⟩], value)

/-- Evaluates the terms of a chain, each after the sum of those before it, but does not add the last. -/
def readTerms (chain : Chain Float) : Run (List Frame × Float) := do
  let first ← chain.terms.head.foldM c.perform
  chain.terms.tail.foldlM c.nextTerm ([], first)

/-- An additive operator ends the sum under way. -/
theorem load_of_isAdditive {op : Operator} (h : op.isAdditive = true) (frames : List Frame)
    (n : Float) :
    c.load frames n op = c.close frames n >>= fun sum => pure [⟨sum, op⟩] := by
  have hRank : ∀ frame ∈ frames, op.rank ≤ frame.operator.rank := fun frame _ => by
    rw [Operator.rank_of_isAdditive h]
    exact frame.operator.rank_pos
  have hSettle := c.settle_append hRank [] n
  rw [List.append_nil] at hSettle
  rw [load, hSettle, bind_assoc]
  rfl

/-- A multiplicative operator ends what is under way of the term and leaves the sum as it is. -/
theorem load_of_not_isAdditive {op : Operator} (h : op.isAdditive = false) {term sum : List Frame}
    (hTerm : IsTerm term) (hSum : IsSum sum) (n : Float) :
    c.load (term ++ sum) n op = c.close term n >>= fun value => pure (⟨value, op⟩ :: sum) := by
  -- The term binds as tightly as the operator and is closed; the sum binds less tightly and stays.
  rw [load, c.settle_append (hTerm.rank_le op), bind_assoc]
  refine bind_congr fun value => ?_
  rw [c.settle_of_lt (hSum.rank_lt h), pure_bind]

section Runs

variable (length : Nat)

/-- The frames of a term are reduced before an operator and at the end of the tokens. -/
theorem run_term {term : List Frame} (hTerm : IsTerm term) (sum : List Frame) (n : Float) (tail : List Token)
    (hTail : ∀ token ∈ tail.head?, Slot.operator.Fits token) :
    c.run length (.beforeOperator (term ++ sum) n tail) =
      c.close term n >>= fun value => c.run length (.beforeOperator sum value tail) := by
  cases tail with
  | nil => simp only [run_end, close_append]
  | cons token rest =>
      cases token with
      | number m => exact absurd (hTail _ rfl) id
      | operator op =>
          simp only [run_operator, load, c.settle_append (hTerm.rank_le op), bind_assoc]

/-- The run on a chain that something else than a number follows.  The induction is on the links; the
frames of the term and of the sum are what the links before them have left. -/
theorem run_links (links : List (Operator × Float)) (n : Float) (term sum : List Frame)
    (hTerm : IsTerm term) (hSum : IsSum sum) (tail : List Token)
    (hTail : ∀ token ∈ tail.head?, Slot.operator.Fits token) :
    c.run length (.beforeOperand (term ++ sum) (Chain.tokens ⟨n, links⟩ ++ tail)) = (do
      let started ← c.close term n
      let value ← (Chain.cutLinks links).1.foldlM
        (fun left link => c.perform link.1 left link.2) started
      let state ← (Chain.cutLinks links).2.foldlM c.nextTerm (sum, value)
      c.run length (.beforeOperator state.1 state.2 tail)) := by
  induction links generalizing n term sum with
  | nil =>
      show c.run length (.beforeOperand (term ++ sum) (.number n :: tail)) = _
      rw [run_number, c.run_term length hTerm sum n tail hTail]
      simp only [Chain.cutLinks, List.foldlM_nil, pure_bind]
  | cons link rest ih =>
      obtain ⟨op, m⟩ := link
      show c.run length (.beforeOperand (term ++ sum)
        (.number n :: .operator op :: (Chain.tokens ⟨m, rest⟩ ++ tail))) = _
      rw [run_number, run_operator]
      cases hOp : op.isAdditive with
      | true =>
          -- The sum under way is closed and is the only frame before the next term.
          have hRest := fun value : Float => ih m [] [⟨value, op⟩] .nil (.singleton hOp value)
          simp only [List.nil_append] at hRest
          simp only [load_of_isAdditive c hOp, Chain.cutLinks_cons_of_isAdditive hOp, bind_assoc,
            pure_bind, hRest, close_append, close_nil, List.foldlM_nil, List.foldlM_cons, nextTerm,
            Chain.foldM]
      | false =>
          -- The value so far is the left operand of the next factor, above the same sum.
          have hRest := fun value : Float => ih m [⟨value, op⟩] sum (.singleton hOp value) hSum
          simp only [List.singleton_append] at hRest
          simp only [load_of_not_isAdditive c hOp hTerm hSum,
            Chain.cutLinks_cons_of_not_isAdditive hOp, bind_assoc, pure_bind, hRest, close_cons,
            close_nil, List.foldlM_cons]

/-- The run on a chain at the start of the tokens. -/
theorem run_chain (chain : Chain Float) (tail : List Token)
    (hTail : ∀ token ∈ tail.head?, Slot.operator.Fits token) :
    c.run length (.start (chain.tokens ++ tail)) =
      c.readTerms chain >>= fun state => c.run length (.beforeOperator state.1 state.2 tail) := by
  have hLinks := c.run_links length chain.tail chain.head [] [] .nil .nil tail hTail
  simpa only [readTerms, Chain.terms, Chain.foldM, close_nil, pure_bind, bind_assoc,
    List.append_nil, Machine.start_eq_beforeOperand] using hLinks

/-- The run on a chain that an operator follows. -/
theorem run_chain_operator (chain : Chain Float) (op : Operator) (rest : List Token) :
    c.run length (.start (chain.tokens ++ .operator op :: rest)) = (do
      let state ← c.readTerms chain
      let frames ← c.load state.1 state.2 op
      c.run length (.beforeOperand frames rest)) := by
  rw [c.run_chain length chain (.operator op :: rest) (by rintro token ⟨⟩; trivial)]
  exact bind_congr fun state => c.run_operator length state.1 state.2 op rest

/-- The run on a chain that is the whole expression. -/
theorem runTokens_eq_readTerms (chain : Chain Float) :
    c.runTokens chain.tokens = c.readTerms chain >>= fun state => c.close state.1 state.2 := by
  have hRun := c.run_chain chain.tokens.length chain [] (by rintro token ⟨⟩)
  simp only [List.append_nil, run_end] at hRun
  exact hRun

end Runs

/-- Evaluates a sum of terms from left to right, each term when the sum of those before it is known. -/
def sumInTurn (sum : Chain (Chain Float)) : Run Float := do
  let first ← sum.head.foldM c.perform
  sum.tail.foldlM
    (fun left link => do
      let right ← link.2.foldM c.perform
      c.perform link.1 left right)
    first

/-- Ending a term with the next one in hand is the same as adding it at once. -/
theorem nextTerm_close (later : List (Operator × Chain Float)) (sum : List Frame) (value : Float) :
    (do
      let state ← later.foldlM c.nextTerm (sum, value)
      c.close state.1 state.2) = (do
      let first ← c.close sum value
      later.foldlM
        (fun left link => do
          let right ← link.2.foldM c.perform
          c.perform link.1 left right)
        first) := by
  induction later generalizing sum value with
  | nil => simp only [List.foldlM_nil, pure_bind, bind_pure]
  | cons link rest ih =>
      simp only [List.foldlM_cons, nextTerm, bind_assoc, pure_bind, ih, close_cons, close_nil]

/-- The machine evaluates a chain by its terms. -/
theorem runTokens_tokens (chain : Chain Float) :
    c.runTokens chain.tokens = c.sumInTurn chain.terms := by
  rw [c.runTokens_eq_readTerms]
  simp only [readTerms, bind_assoc, nextTerm_close, close_nil, pure_bind]
  rfl

/-- Additions and subtractions may wait until all terms are evaluated. -/
theorem sumLinks_eq {later : List (Operator × Chain Float)}
    (h : ∀ link ∈ later, link.1.isAdditive = true) (left : Float) :
    later.foldlM
        (fun left link => do
          let right ← link.2.foldM c.apply
          c.apply link.1 left right)
        left = (do
      let values ← later.mapM fun link => do return (link.1, ← link.2.foldM c.apply)
      values.foldlM (fun left link => c.apply link.1 left link.2) left) := by
  induction later generalizing left with
  | nil => rfl
  | cons link rest ih =>
      have hRest := ih fun later hLater => h later (List.mem_cons_of_mem _ hLater)
      simp only [List.foldlM_cons, List.mapM_cons, bind_assoc, pure_bind, hRest]
      refine bind_congr fun right => ?_
      -- The sum has a value, so a failure of a later term comes first on either side.
      obtain ⟨sum, hSum⟩ := c.exists_apply_of_isAdditive (h link List.mem_cons_self) left right
      rw [hSum]
      rfl

theorem outcome_foldM_perform (term : Chain Float) :
    (term.foldM c.perform).outcome = term.foldM c.apply :=
  Run.outcome_foldlM _ _ _

/-- Evaluating a sum term by term gives the value that the grammar gives it. -/
theorem outcome_sumInTurn {sum : Chain (Chain Float)}
    (h : ∀ link ∈ sum.tail, link.1.isAdditive = true) :
    (c.sumInTurn sum).outcome = (do
      let values ← sum.mapM (Chain.foldM c.apply)
      values.foldM c.apply) := by
  simp only [sumInTurn, Run.outcome_bind, Run.outcome_foldlM, outcome_foldM_perform,
    outcome_perform, c.sumLinks_eq h, Chain.mapM, bind_assoc, pure_bind]
  rfl

/-- The tokens of a chain have the value that the grammar gives the chain. -/
theorem evaluate_tokens (chain : Chain Float) : c.evaluate chain.tokens = c.evaluateTerms chain := by
  rw [evaluate, c.runTokens_tokens,
    c.outcome_sumInTurn fun link hLink => Chain.isAdditive_of_mem_terms hLink]
  rfl

/-- A well-formed list of tokens has the value that the grammar gives it: it is one chain of numbers,
and evaluating that chain's terms and then their sum gives the same number or the same failure. -/
theorem evaluate_of_wellFormed (c : Calculator) {tokens : List Token}
    (h : Token.WellFormed tokens) :
    ∃ chain : Chain Float, tokens = chain.tokens ∧ c.evaluate tokens = c.evaluateTerms chain := by
  obtain ⟨chain, rfl⟩ := Chain.wellFormed_iff_exists_tokens.1 h
  exact ⟨chain, rfl, c.evaluate_tokens chain⟩

/-- A sum of three terms.  The second one, 1500, is beyond the limit and counts as zero. -/
theorem evaluate_of_wellFormed_saturated :
    Token.WellFormed [.number 2, .operator .minus, .number 500, .operator .times, .number 3,
        .operator .plus, .number 4, .operator .divide, .number 2] ∧
      standard.evaluate [.number 2, .operator .minus, .number 500, .operator .times, .number 3,
        .operator .plus, .number 4, .operator .divide, .number 2] = .ok 4 := by
  have hWellFormed :
      Token.WellFormed [.number 2, .operator .minus, .number 500, .operator .times, .number 3,
        .operator .plus, .number 4, .operator .divide, .number 2] :=
    Chain.wellFormed_iff_exists_tokens.2
      ⟨⟨2, [(.minus, 500), (.times, 3), (.plus, 4), (.divide, 2)]⟩, rfl⟩
  refine ⟨hWellFormed, ?_⟩
  obtain ⟨chain, hTokens, hValue⟩ := evaluate_of_wellFormed standard hWellFormed
  have hChain : chain = ⟨2, [(.minus, 500), (.times, 3), (.plus, 4), (.divide, 2)]⟩ := by
    have hRead := Chain.ofTokens?_tokens chain
    rw [← hTokens] at hRead
    exact (Option.some.inj hRead).symm
  rw [hValue, hChain]
  decide +kernel

end Calculator

end FlatArith
