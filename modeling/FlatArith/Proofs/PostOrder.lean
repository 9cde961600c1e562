import FlatArith.Calculation
import FlatArith.Proofs.Positions
import FlatArith.Proofs.Precedence

/-!
# The reductions of a run in post-order

The machine on the tokens of a nested tree evaluates the tree: the left subtree, the right subtree,
then the operator on top (`runTokens_tree`).  So its reductions are those at the inner nodes of the
tree in post-order, and every reduction has the values of the node's subtrees for its operands.

* If the tree has a value, there is a reduction for every inner node (`forall₂_reductions`).
* If not, the reductions are those at the nodes before the first one that fails, and that node has
  operands with values and a zero for the right one (`exists_failing_node`).

`reductions_of_wellFormed` says this of what the evaluation of a list of tokens logs.
-/

namespace FlatArith

namespace Tree

/-- A tree has one more number than operators. -/
theorem length_tokens (tree : Tree) : tree.tokens.length = 2 * tree.nodes.length + 1 := by
  induction tree with
  | leaf n => rfl
  | node op left right ihLeft ihRight =>
      simp only [tokens, nodes, List.length_append, List.length_cons, List.length_nil, ihLeft,
        ihRight]
      omega

end Tree

namespace Calculator

variable (c : Calculator)

/-- The run that evaluates a tree: first its left subtree, then its right subtree, and the operator
on top last. -/
def runTree (c : Calculator) : Tree → Run Float
  | .leaf n => pure n
  | .node op left right => do
      let leftValue ← c.runTree left
      let rightValue ← c.runTree right
      c.perform op leftValue rightValue

section Machine

theorem sumInTurn_singleton (term : Chain Float) :
    c.sumInTurn ⟨term, []⟩ = term.foldM c.perform := by
  simp [sumInTurn]

theorem sumInTurn_append_singleton (sum : Chain (Chain Float)) (op : Operator)
    (term : Chain Float) :
    c.sumInTurn (sum.append op ⟨term, []⟩) = (do
      let left ← c.sumInTurn sum
      let right ← term.foldM c.perform
      c.perform op left right) := by
  simp [sumInTurn, Chain.append]

/-- The terms of a nested tree, evaluated in turn, give the run on the tree. -/
theorem sumInTurn_toChain {tree : Tree} (h : tree.Nested) :
    c.sumInTurn tree.toChain.terms = c.runTree tree := by
  induction tree with
  | leaf n =>
      simp [Tree.toChain, Chain.terms, Chain.cutLinks, sumInTurn_singleton, Chain.foldM, runTree]
  | node op left right ihLeft ihRight =>
      have hLeft := ihLeft h.1.2
      have hRight := ihRight h.2.2
      rcases h.cases_node with ⟨hOp, hProduct, n, rfl⟩ | ⟨hOp, hProduct⟩
      · have hLonger := hProduct.append (Chain.isProduct_singleton n) hOp
        rw [Chain.terms_of_isProduct hProduct, sumInTurn_singleton] at hLeft
        rw [Tree.toChain, Tree.toChain, Chain.terms_of_isProduct hLonger, sumInTurn_singleton,
          Chain.foldM_append_singleton, hLeft]
        simp only [runTree, pure_bind]
      · rw [Chain.terms_of_isProduct hProduct, sumInTurn_singleton] at hRight
        rw [Tree.toChain, Chain.terms_append hOp _ hProduct, sumInTurn_append_singleton, hLeft,
          hRight]
        rfl

/-- The machine evaluates the tree of its tokens. -/
theorem runTokens_tree {tree : Tree} (h : tree.Nested) :
    c.runTokens tree.tokens = c.runTree tree := by
  rw [← Tree.tokens_toChain, c.runTokens_tokens, c.sumInTurn_toChain h]

@[simp] theorem outcome_runTree (tree : Tree) : (c.runTree tree).outcome = c.valueOf tree := by
  induction tree with
  | leaf n => rfl
  | node op left right ihLeft ihRight =>
      simp only [runTree, valueOf, Run.outcome_bind, outcome_perform, ihLeft, ihRight]

theorem evaluate_tree {tree : Tree} (h : tree.Nested) :
    c.evaluate tree.tokens = c.valueOf tree := by
  rw [evaluate, c.runTokens_tree h, outcome_runTree]

end Machine

/-- The reduction is the one at the inner node: it applies the operator of the node to the values of
its subtrees. -/
structure ReducesAt (reduction : Reduction) (node : Operator × Tree × Tree) : Prop where
  operator : reduction.operator = node.1
  left : c.valueOf node.2.1 = .ok reduction.left
  right : c.valueOf node.2.2 = .ok reduction.right
  result : c.apply node.1 reduction.left reduction.right = .ok reduction.result

/-- The subtrees of the inner node have values, but its operator cannot be applied to them. -/
def FailsAt (node : Operator × Tree × Tree) (failure : Failure) : Prop :=
  ∃ left right, c.valueOf node.2.1 = .ok left ∧ c.valueOf node.2.2 = .ok right ∧
    c.apply node.1 left right = .error failure

section Nodes

/-- How the run on a tree with an operator on top comes about: it ends with the first subtree that
fails, or applies the operator to the values of both. -/
theorem cases_runTree_node (op : Operator) (left right : Tree) :
    (∃ failure, c.valueOf left = .error failure ∧
        c.runTree (.node op left right) = ⟨(c.runTree left).reductions, .error failure⟩) ∨
      (∃ failure, (∃ value, c.valueOf left = .ok value) ∧ c.valueOf right = .error failure ∧
        c.runTree (.node op left right) =
          ⟨(c.runTree left).reductions ++ (c.runTree right).reductions, .error failure⟩) ∨
      ∃ leftValue rightValue, c.valueOf left = .ok leftValue ∧ c.valueOf right = .ok rightValue ∧
        c.runTree (.node op left right) =
          ⟨(c.runTree left).reductions ++ (c.runTree right).reductions ++
              (c.perform op leftValue rightValue).reductions,
            c.apply op leftValue rightValue⟩ := by
  have hLeft := c.outcome_runTree left
  have hRight := c.outcome_runTree right
  cases hLeftValue : c.valueOf left with
  | error failure =>
      rw [hLeftValue] at hLeft
      refine .inl ⟨failure, rfl, ?_⟩
      rw [runTree, Run.bind_of_error hLeft]
  | ok leftValue =>
      rw [hLeftValue] at hLeft
      cases hRightValue : c.valueOf right with
      | error failure =>
          rw [hRightValue] at hRight
          refine .inr (.inl ⟨failure, ⟨leftValue, rfl⟩, rfl, ?_⟩)
          rw [runTree, Run.bind_of_ok hLeft, Run.bind_of_error hRight]
      | ok rightValue =>
          rw [hRightValue] at hRight
          refine .inr (.inr ⟨leftValue, rightValue, rfl, rfl, ?_⟩)
          rw [runTree, Run.bind_of_ok hLeft, Run.bind_of_ok hRight, List.append_assoc]
          rfl

/-- The value of a tree with a value and an operator on top is the result of a last reduction. -/
theorem exists_reductions_node {op : Operator} {left right : Tree} {value : Float}
    (h : c.valueOf (.node op left right) = .ok value) :
    ∃ leftValue rightValue, c.valueOf left = .ok leftValue ∧ c.valueOf right = .ok rightValue ∧
      c.apply op leftValue rightValue = .ok value ∧
      (c.runTree (.node op left right)).reductions =
        (c.runTree left).reductions ++ (c.runTree right).reductions ++
          [⟨op, leftValue, rightValue, value⟩] := by
  rw [← c.outcome_runTree] at h
  rcases c.cases_runTree_node op left right with ⟨failure, -, hRun⟩ | ⟨failure, -, -, hRun⟩ |
    ⟨leftValue, rightValue, hLeft, hRight, hRun⟩
  · rw [hRun] at h
    cases h
  · rw [hRun] at h
    cases h
  · rw [hRun] at h
    have hApply : c.apply op leftValue rightValue = .ok value := h
    refine ⟨leftValue, rightValue, hLeft, hRight, hApply, ?_⟩
    rw [hRun]
    simp only [perform, hApply]

/-- A tree with a value has a reduction for every inner node, in post-order. -/
theorem forall₂_reductions {tree : Tree} {value : Float} (h : c.valueOf tree = .ok value) :
    List.Forall₂ c.ReducesAt (c.runTree tree).reductions tree.nodes := by
  induction tree generalizing value with
  | leaf n => exact .nil
  | node op left right ihLeft ihRight =>
      obtain ⟨leftValue, rightValue, hLeft, hRight, hApply, hReductions⟩ :=
        c.exists_reductions_node h
      have hTop : c.ReducesAt ⟨op, leftValue, rightValue, value⟩ (op, left, right) :=
        ⟨rfl, hLeft, hRight, hApply⟩
      rw [hReductions, Tree.nodes]
      exact List.rel_append (List.rel_append (ihLeft hLeft) (ihRight hRight)) (.cons hTop .nil)

/-- The reductions of a tree without a value are those at the nodes before one that fails. -/
theorem exists_failing_node {tree : Tree} {failure : Failure}
    (h : c.valueOf tree = .error failure) :
    ∃ before node after, tree.nodes = before ++ node :: after ∧
      List.Forall₂ c.ReducesAt (c.runTree tree).reductions before ∧ c.FailsAt node failure := by
  induction tree generalizing failure with
  | leaf n => cases h
  | node op left right ihLeft ihRight =>
      rw [← c.outcome_runTree] at h
      rcases c.cases_runTree_node op left right with ⟨_, hLeft, hRun⟩ | ⟨_, hLeft, hRight, hRun⟩ |
        ⟨leftValue, rightValue, hLeft, hRight, hRun⟩
      · rw [hRun] at h ⊢
        cases h
        obtain ⟨before, node, after, hNodes, hBefore, hFails⟩ := ihLeft hLeft
        refine ⟨before, node, after ++ right.nodes ++ [(op, left, right)], ?_, hBefore, hFails⟩
        simp [Tree.nodes, hNodes]
      · rw [hRun] at h ⊢
        cases h
        obtain ⟨leftValue, hLeft⟩ := hLeft
        obtain ⟨before, node, after, hNodes, hBefore, hFails⟩ := ihRight hRight
        refine ⟨left.nodes ++ before, node, after ++ [(op, left, right)], ?_, ?_, hFails⟩
        · simp [Tree.nodes, hNodes]
        · exact List.rel_append (c.forall₂_reductions hLeft) hBefore
      · rw [hRun] at h ⊢
        have hApply : c.apply op leftValue rightValue = .error failure := h
        refine ⟨left.nodes ++ right.nodes, (op, left, right), [], rfl, ?_, ?_⟩
        · simp only [perform, hApply, List.append_nil]
          exact List.rel_append (c.forall₂_reductions hLeft) (c.forall₂_reductions hRight)
        · exact ⟨leftValue, rightValue, hLeft, hRight, hApply⟩

theorem reductionAt?_of_reducesAt {reduction : Reduction} {node : Operator × Tree × Tree}
    (h : c.ReducesAt reduction node) : c.reductionAt? node = some reduction := by
  obtain ⟨hOperator, hLeft, hRight, hResult⟩ := h
  simp only [reductionAt?, hLeft, hRight, hResult]
  rw [← hOperator]

theorem reductionAt?_of_failsAt {node : Operator × Tree × Tree} {failure : Failure}
    (h : c.FailsAt node failure) : c.reductionAt? node = none := by
  obtain ⟨left, right, hLeft, hRight, hFailure⟩ := h
  simp only [reductionAt?, hLeft, hRight, hFailure]

theorem map_reductionAt? {reductions : List Reduction} {nodes : List (Operator × Tree × Tree)}
    (h : List.Forall₂ c.ReducesAt reductions nodes) :
    nodes.map c.reductionAt? = reductions.map some := by
  induction h with
  | nil => rfl
  | cons hFirst _ ih => simp [c.reductionAt?_of_reducesAt hFirst, ih]

/-- The reductions that come before the first node without one. -/
theorem filterMap_takeWhile_isSome (reductions : List Reduction) (rest : List (Option Reduction))
    (h : rest.takeWhile Option.isSome = []) :
    ((reductions.map some ++ rest).takeWhile Option.isSome).filterMap id = reductions := by
  induction reductions with
  | nil => simp [h]
  | cons first later ih => simpa using ih

/-- The reductions of the run on a tree are the reductions at its nodes. -/
theorem reductions_runTree (tree : Tree) : (c.runTree tree).reductions = c.reductionsOf tree := by
  cases hValue : c.valueOf tree with
  | ok value =>
      have hMap := c.map_reductionAt? (c.forall₂_reductions hValue)
      have hAll := filterMap_takeWhile_isSome (c.runTree tree).reductions [] rfl
      rw [List.append_nil] at hAll
      rw [reductionsOf, hMap, hAll]
  | error failure =>
      obtain ⟨before, node, after, hNodes, hBefore, hFails⟩ := c.exists_failing_node hValue
      have hNone := c.reductionAt?_of_failsAt hFails
      rw [reductionsOf, hNodes, List.map_append, c.map_reductionAt? hBefore,
        filterMap_takeWhile_isSome]
      simp [hNone]

/-- The last reduction of a tree with a value gives that value. -/
theorem result_of_getLast? {tree : Tree} {value : Float} (h : c.valueOf tree = .ok value) :
    ∀ last ∈ (c.runTree tree).reductions.getLast?, last.result = value := by
  intro last hLast
  cases tree with
  | leaf n => cases hLast
  | node op left right =>
      obtain ⟨leftValue, rightValue, -, -, -, hReductions⟩ := c.exists_reductions_node h
      rw [hReductions, List.getLast?_concat] at hLast
      cases hLast
      rfl

end Nodes

/-- The log of an evaluation reports the reductions of the run. -/
theorem reductionsAt_evaluateLogged (tokens : List Token) :
    (c.evaluateLogged tokens).reductionsAt .trace = (c.runTokens tokens).reductions := by
  have hReduced : ∀ reductions : List Reduction,
      (reductions.map LogEntry.reduced).filterMap LogEntry.reduction? = reductions := by
    intro reductions
    induction reductions with
    | nil => rfl
    | cons first rest ih => simp [LogEntry.reduction?, ih]
  rw [Logged.reductionsAt, Logged.logAt_trace]
  simp [evaluateLogged, Logged.within, List.filterMap_cons, LogEntry.reduction?, hReduced]

/-- What the evaluation of a well-formed list reports is its tree in post-order.  The list has
exactly one parse.  Without a zero divisor there is one reduction for every operator, each at its
node with the values of the node's subtrees, and the last one gives the value of the list.  With a
zero divisor the reductions are those at the nodes before the first division by zero. -/
theorem reductions_of_wellFormed (c : Calculator) {tokens : List Token}
    (h : Token.WellFormed tokens) :
    ∃ tree : Tree, tree.IsParse tokens ∧ (∀ other : Tree, other.IsParse tokens → other = tree) ∧
      (c.evaluateLogged tokens).reductionsAt .trace = c.reductionsOf tree ∧
      ((∀ position, ¬ Token.ZeroDivisorAt tokens position) →
        List.Forall₂ c.ReducesAt ((c.evaluateLogged tokens).reductionsAt .trace) tree.nodes ∧
          ((c.evaluateLogged tokens).reductionsAt .trace).length = (tokens.length - 1) / 2 ∧
          ∃ value, c.evaluate tokens = .ok value ∧
            ∀ last ∈ ((c.evaluateLogged tokens).reductionsAt .trace).getLast?,
              last.result = value) ∧
      ((∃ position, Token.ZeroDivisorAt tokens position) →
        c.evaluate tokens = .error .divisionByZero ∧
          ∃ before node after, tree.nodes = before ++ node :: after ∧
            List.Forall₂ c.ReducesAt ((c.evaluateLogged tokens).reductionsAt .trace) before ∧
            c.FailsAt node .divisionByZero) := by
  obtain ⟨chain, rfl⟩ := Chain.wellFormed_iff_exists_tokens.1 h
  have hParse := Tree.isParse_ofChain chain
  refine ⟨Tree.ofChain chain, hParse, fun other hOther => hOther.eq_ofChain, ?_⟩
  generalize Tree.ofChain chain = tree at hParse
  have hValue := c.evaluate_tree hParse.nested
  have hReductions : (c.evaluateLogged chain.tokens).reductionsAt .trace =
      (c.runTree tree).reductions := by
    rw [c.reductionsAt_evaluateLogged, ← hParse.tokens_eq, c.runTokens_tree hParse.nested]
  rw [hParse.tokens_eq] at hValue
  rw [hReductions]
  refine ⟨c.reductions_runTree tree, fun hNone => ?_, fun hZero => ?_⟩
  · have hChain := Chain.not_hasZeroDivisor_of_tokens hNone
    obtain ⟨value, hOutcome⟩ := c.exists_evaluate hChain
    have hTree : c.valueOf tree = .ok value := hValue.symm.trans hOutcome
    have hForall := c.forall₂_reductions hTree
    have hLength := tree.length_tokens
    rw [hParse.tokens_eq] at hLength
    refine ⟨hForall, ?_, value, hOutcome, c.result_of_getLast? hTree⟩
    rw [hForall.length_eq, hLength]
    omega
  · have hChain := chain.exists_zeroDivisorAt_tokens_iff.1 hZero
    have hOutcome := c.evaluate_of_hasZeroDivisor hChain
    exact ⟨hOutcome, c.exists_failing_node (hValue.symm.trans hOutcome)⟩

/-- A product and a difference, then a division by zero.  The operand 1500 is reported as it is,
although it is beyond the limit and counts as zero in the difference; the division is not reported.
-/
theorem reductions_of_wellFormed_divided :
    Token.WellFormed [.number 2, .operator .minus, .number 500, .operator .times, .number 3,
        .operator .plus, .number 1, .operator .divide, .number 0] ∧
      (standard.evaluateLogged [.number 2, .operator .minus, .number 500, .operator .times,
          .number 3, .operator .plus, .number 1, .operator .divide, .number 0]).reductionsAt .trace =
        [⟨.times, 500, 3, 1500⟩, ⟨.minus, 2, 1500, 2⟩] ∧
      standard.evaluate [.number 2, .operator .minus, .number 500, .operator .times, .number 3,
        .operator .plus, .number 1, .operator .divide, .number 0] = .error .divisionByZero := by
  have hWellFormed : Token.WellFormed [.number 2, .operator .minus, .number 500, .operator .times,
      .number 3, .operator .plus, .number 1, .operator .divide, .number 0] :=
    Chain.wellFormed_iff_exists_tokens.2
      ⟨⟨2, [(.minus, 500), (.times, 3), (.plus, 1), (.divide, 0)]⟩, rfl⟩
  obtain ⟨tree, -, hUnique, hReductions, -, hFails⟩ :=
    reductions_of_wellFormed standard hWellFormed
  have hTree : Tree.node .plus
      (.node .minus (.leaf 2) (.node .times (.leaf 500) (.leaf 3)))
      (.node .divide (.leaf 1) (.leaf 0)) = tree :=
    hUnique _ ⟨by simp [Tree.Nested, Tree.rank, Operator.rank], rfl⟩
  have hProduct : standard.apply .times 500 3 = .ok 1500 := by decide +kernel
  have hDifference : standard.apply .minus 2 1500 = .ok 2 := by decide +kernel
  have hQuotient : standard.apply .divide 1 0 = .error .divisionByZero := by decide +kernel
  refine ⟨hWellFormed, ?_, (hFails ⟨7, rfl, 0, rfl, .inl rfl⟩).1⟩
  rw [hReductions, ← hTree]
  simp [reductionsOf, Tree.nodes, reductionAt?, valueOf, hProduct, hDifference, hQuotient, bind,
    Except.bind]

end Calculator

end FlatArith
