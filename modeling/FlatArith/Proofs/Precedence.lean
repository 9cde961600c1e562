import FlatArith.Proofs.Grammar
import FlatArith.Tree
import Mathlib.Data.List.Induction

/-!
# Trees by precedence

`Tree.Nested` says how the operators of an expression's tree stand to each other: none stands above
an operator that binds less tightly, and operators of one rank lean to the left.  `Tree.IsParse` adds
that the tree has the given tokens at its leaves and nodes.

The grammar is unambiguous.  `Tree.ofChain` makes a parse of every chain of numbers
(`isParse_ofChain`), and there is no other one (`IsParse.eq_ofChain`).  So the tree that is computed
by terms and the tree that is described by ranks are the same.

The proofs go over the nested trees in one way.  A node either puts one more factor behind a product,
or one more product behind a sum (`Nested.cases_node`).  Both are chains joined by `Chain.append`.
-/

namespace FlatArith

namespace Chain

variable {α β : Type}

/-- Two chains, joined by an operator. -/
def append (first : Chain α) (op : Operator) (second : Chain α) : Chain α where
  head := first.head
  tail := first.tail ++ (op, second.head) :: second.tail

/-- The chain is one term: none of its operators is additive. -/
def IsProduct (chain : Chain α) : Prop :=
  ∀ link ∈ chain.tail, link.1.isAdditive = false

theorem append_assoc (first : Chain α) (op : Operator) (second : Chain α) (last : Operator)
    (third : Chain α) :
    (first.append op second).append last third = first.append op (second.append last third) := by
  simp [append]

theorem map_append (f : α → β) (first : Chain α) (op : Operator) (second : Chain α) :
    (first.append op second).map f = (first.map f).append op (second.map f) := by
  simp [append, map]

theorem linkTokens_append (first second : List (Operator × Float)) :
    linkTokens (first ++ second) = linkTokens first ++ linkTokens second := by
  induction first with
  | nil => rfl
  | cons link rest ih => simp [linkTokens, ih]

theorem tokens_append (first : Chain Float) (op : Operator) (second : Chain Float) :
    (first.append op second).tokens = first.tokens ++ .operator op :: second.tokens := by
  simp [append, tokens, linkTokens_append, linkTokens]

/-- One more element comes last in a fold from left to right. -/
theorem fold_append_singleton (f : Operator → α → α → α) (chain : Chain α) (op : Operator) (a : α) :
    (chain.append op ⟨a, []⟩).fold f = f op (chain.fold f) a := by
  simp [append, fold]

theorem foldM_append_singleton {m : Type → Type} [Monad m] [LawfulMonad m]
    (f : Operator → α → α → m α) (chain : Chain α) (op : Operator) (a : α) :
    (chain.append op ⟨a, []⟩).foldM f = chain.foldM f >>= fun left => f op left a := by
  simp [append, foldM]

theorem isProduct_singleton (a : α) : IsProduct ⟨a, []⟩ :=
  fun _ hLink => absurd hLink List.not_mem_nil

theorem IsProduct.map {chain : Chain α} (h : chain.IsProduct) (f : α → β) :
    (chain.map f).IsProduct := by
  intro link hLink
  obtain ⟨source, hSource, rfl⟩ := List.mem_map.1 hLink
  exact h source hSource

theorem IsProduct.append {first second : Chain α} (hFirst : first.IsProduct)
    (hSecond : second.IsProduct) {op : Operator} (hOp : op.isAdditive = false) :
    (first.append op second).IsProduct := by
  intro link hLink
  rcases List.mem_append.1 hLink with hLink | hLink
  · exact hFirst link hLink
  · rcases List.mem_cons.1 hLink with rfl | hLink
    · exact hOp
    · exact hSecond link hLink

/-- Links without additive operators belong to the term under way. -/
theorem cutLinks_of_forall {links : List (Operator × α)}
    (h : ∀ link ∈ links, link.1.isAdditive = false) : cutLinks links = (links, []) := by
  induction links with
  | nil => rfl
  | cons link rest ih =>
      have hRest := ih fun later hLater => h later (List.mem_cons_of_mem _ hLater)
      rw [cutLinks_cons_of_not_isAdditive (h link List.mem_cons_self), hRest]

/-- What stands behind an additive operator is cut without regard to what stands before it. -/
theorem cutLinks_append {op : Operator} (hOp : op.isAdditive = true) (first : List (Operator × α))
    (a : α) (rest : List (Operator × α)) :
    cutLinks (first ++ (op, a) :: rest) =
      ((cutLinks first).1, (cutLinks first).2 ++ (cutLinks ((op, a) :: rest)).2) := by
  induction first with
  | nil => simp [cutLinks, hOp]
  | cons link later ih =>
      obtain ⟨last, b⟩ := link
      cases hLast : last.isAdditive with
      | true => simp [cutLinks_cons_of_isAdditive hLast, ih]
      | false => simp [cutLinks_cons_of_not_isAdditive hLast, ih]

/-- A product is its own only term. -/
theorem terms_of_isProduct {chain : Chain α} (h : chain.IsProduct) : chain.terms = ⟨chain, []⟩ := by
  simp only [terms, cutLinks_of_forall h]

/-- A product behind an additive operator is one more term. -/
theorem terms_append {op : Operator} (hOp : op.isAdditive = true) (first : Chain α)
    {second : Chain α} (hSecond : second.IsProduct) :
    (first.append op second).terms = first.terms.append op ⟨second, []⟩ := by
  have hLater := cutLinks_of_forall hSecond
  simp only [terms, append, cutLinks_append hOp, cutLinks_cons_of_isAdditive hOp, hLater]

end Chain

namespace Tree

/-- How tightly the topmost operator of a tree binds.  A number binds more tightly than any operator.
-/
def rank : Tree → Nat
  | leaf _ => 3
  | node op _ _ => op.rank

/-- The tokens of a tree from left to right: those of the left subtree, the operator, those of the
right one. -/
def tokens : Tree → List Token
  | leaf n => [.number n]
  | node op left right => left.tokens ++ .operator op :: right.tokens

/-- Every operator binds no more tightly than the one on top of its left subtree, and less tightly
than the one on top of its right subtree. -/
def Nested : Tree → Prop
  | leaf _ => True
  | node op left right =>
      (op.rank ≤ left.rank ∧ left.Nested) ∧ (op.rank < right.rank ∧ right.Nested)

/-- The tree is that of the tokens, by the ranks of the operators. -/
structure IsParse (tree : Tree) (tokens : List Token) : Prop where
  nested : tree.Nested
  tokens_eq : tree.tokens = tokens

/-- The numbers and operators of a tree from left to right, as a chain. -/
def toChain : Tree → Chain Float
  | leaf n => ⟨n, []⟩
  | node op left right => left.toChain.append op right.toChain

theorem tokens_toChain (tree : Tree) : tree.toChain.tokens = tree.tokens := by
  induction tree with
  | leaf n => rfl
  | node op left right ihLeft ihRight =>
      rw [toChain, Chain.tokens_append, ihLeft, ihRight, tokens]

/-- Only a number binds more tightly than the multiplicative operators. -/
theorem exists_leaf_of_lt_rank {tree : Tree} (h : 2 < tree.rank) : ∃ n, tree = leaf n := by
  cases tree with
  | leaf n => exact ⟨n, rfl⟩
  | node op left right =>
      have hBound := op.rank_le_two
      have hRank : 2 < op.rank := h
      omega

/-- A nested tree that binds more tightly than an additive operator is that of a product. -/
theorem Nested.isProduct {tree : Tree} (h : tree.Nested) (hRank : 1 < tree.rank) :
    tree.toChain.IsProduct := by
  induction tree with
  | leaf n => exact Chain.isProduct_singleton n
  | node op left right ihLeft ihRight =>
      obtain ⟨⟨hLeft, hLeftNested⟩, hRight, hRightNested⟩ := h
      have hOp : 1 < op.rank := hRank
      have hMultiplicative : op.isAdditive = false := by
        simp only [Operator.isAdditive_eq_rank, beq_eq_false_iff_ne]
        omega
      have hLeftProduct := ihLeft hLeftNested (by omega)
      have hRightProduct := ihRight hRightNested (by omega)
      exact hLeftProduct.append hRightProduct hMultiplicative

/-- A nested tree with an operator on top is a product with one more factor or a sum with one more
product. -/
theorem Nested.cases_node {op : Operator} {left right : Tree} (h : (node op left right).Nested) :
    (op.isAdditive = false ∧ left.toChain.IsProduct ∧ ∃ n, right = leaf n) ∨
      (op.isAdditive = true ∧ right.toChain.IsProduct) := by
  obtain ⟨⟨hLeft, hLeftNested⟩, hRight, hRightNested⟩ := h
  cases hOp : op.isAdditive with
  | true =>
      rw [Operator.rank_of_isAdditive hOp] at hRight
      exact .inr ⟨rfl, hRightNested.isProduct hRight⟩
  | false =>
      rw [Operator.rank_of_not_isAdditive hOp] at hLeft hRight
      exact .inl ⟨rfl, hLeftNested.isProduct hLeft, exists_leaf_of_lt_rank hRight⟩

/-- The tree of a product folds its numbers. -/
theorem ofChain_of_isProduct {chain : Chain Float} (h : chain.IsProduct) :
    ofChain chain = (chain.map leaf).fold node := by
  rw [ofChain, Chain.terms_of_isProduct (h.map leaf)]
  rfl

theorem ofChain_append_of_not_isAdditive {chain : Chain Float} (h : chain.IsProduct) {op : Operator}
    (hOp : op.isAdditive = false) (n : Float) :
    ofChain (chain.append op ⟨n, []⟩) = node op (ofChain chain) (leaf n) := by
  have hAppend : (chain.append op ⟨n, []⟩).IsProduct := h.append (Chain.isProduct_singleton n) hOp
  rw [ofChain_of_isProduct hAppend, ofChain_of_isProduct h, Chain.map_append]
  exact Chain.fold_append_singleton node (chain.map leaf) op (leaf n)

theorem ofChain_append_of_isAdditive {op : Operator} (hOp : op.isAdditive = true)
    (first : Chain Float) {second : Chain Float} (h : second.IsProduct) :
    ofChain (first.append op second) = node op (ofChain first) (ofChain second) := by
  rw [ofChain_of_isProduct h, ofChain, Chain.map_append, Chain.terms_append hOp _ (h.map leaf),
    Chain.map_append]
  exact Chain.fold_append_singleton node _ op _

/-- A nested tree is the tree of its chain. -/
theorem Nested.ofChain_toChain {tree : Tree} (h : tree.Nested) : ofChain tree.toChain = tree := by
  induction tree with
  | leaf n => rfl
  | node op left right ihLeft ihRight =>
      have hLeft := ihLeft h.1.2
      have hRight := ihRight h.2.2
      rcases h.cases_node with ⟨hOp, hProduct, n, rfl⟩ | ⟨hOp, hProduct⟩
      · rw [toChain, toChain, ofChain_append_of_not_isAdditive hProduct hOp, hLeft]
      · rw [toChain, ofChain_append_of_isAdditive hOp _ hProduct, hLeft, hRight]

theorem rank_lt_rank_leaf (op : Operator) (n : Float) : op.rank < (leaf n).rank :=
  Nat.lt_succ_of_le op.rank_le_two

/-- An operator and a number can be put on top of a nested tree that binds no less tightly. -/
theorem Nested.node_leaf {tree : Tree} (h : tree.Nested) {op : Operator}
    (hRank : op.rank ≤ tree.rank) (n : Float) : (node op tree (leaf n)).Nested :=
  ⟨⟨hRank, h⟩, rank_lt_rank_leaf op n, trivial⟩

/-- One more operator and number can be put behind every nested tree: on top of it, unless the tree
is a sum and the operator multiplicative; then on top of the last product of the sum. -/
theorem Nested.exists_append {tree : Tree} (h : tree.Nested) (op : Operator) (n : Float) :
    ∃ longer : Tree, longer.Nested ∧ longer.toChain = tree.toChain.append op ⟨n, []⟩ := by
  by_cases hRank : op.rank ≤ tree.rank
  · exact ⟨node op tree (leaf n), h.node_leaf hRank n, rfl⟩
  · cases tree with
    | leaf m => exact absurd (Nat.le_of_lt (rank_lt_rank_leaf op m)) hRank
    | node last left right =>
        obtain ⟨hLeft, hRight, hRightNested⟩ := h
        have hLast : last.rank < op.rank := Nat.lt_of_not_le hRank
        -- With only two ranks the operator is multiplicative and the last part of the sum a product.
        have hHigher : op.rank ≤ right.rank := by
          have hBound := op.rank_le_two
          have hPositive := last.rank_pos
          omega
        refine ⟨node last left (node op right (leaf n)), ⟨hLeft, hLast, ?_⟩, ?_⟩
        · exact hRightNested.node_leaf hHigher n
        · simp only [toChain, Chain.append_assoc]

/-- Every chain of numbers is that of a nested tree.  The induction puts the links on one by one, so
it takes them off at the end. -/
theorem exists_nested (chain : Chain Float) :
    ∃ tree : Tree, tree.Nested ∧ tree.toChain = chain := by
  obtain ⟨head, links⟩ := chain
  induction links using List.reverseRecOn with
  | nil => exact ⟨leaf head, trivial, rfl⟩
  | append_singleton links link ih =>
      obtain ⟨tree, hNested, hChain⟩ := ih
      obtain ⟨longer, hLonger, hAppend⟩ := hNested.exists_append link.1 link.2
      refine ⟨longer, hLonger, ?_⟩
      rw [hAppend, hChain]
      rfl

/-- The tree of a chain is a parse of its tokens. -/
theorem isParse_ofChain (chain : Chain Float) : (ofChain chain).IsParse chain.tokens := by
  obtain ⟨tree, hNested, rfl⟩ := exists_nested chain
  rw [hNested.ofChain_toChain]
  exact ⟨hNested, (tokens_toChain tree).symm⟩

/-- There is no other parse. -/
theorem IsParse.eq_ofChain {tree : Tree} {chain : Chain Float} (h : tree.IsParse chain.tokens) :
    tree = ofChain chain := by
  have hChain : tree.toChain = chain :=
    Chain.tokens_injective ((tokens_toChain tree).trans h.tokens_eq)
  rw [← hChain, h.nested.ofChain_toChain]

/-- The lists of tokens that have a parse are the well-formed ones. -/
theorem exists_isParse_iff {tokens : List Token} :
    (∃ tree : Tree, tree.IsParse tokens) ↔ Token.WellFormed tokens := by
  rw [Chain.wellFormed_iff_exists_tokens]
  constructor
  · rintro ⟨tree, hParse⟩
    exact ⟨tree.toChain, by rw [tokens_toChain, hParse.tokens_eq]⟩
  · rintro ⟨chain, rfl⟩
    exact ⟨ofChain chain, isParse_ofChain chain⟩

end Tree

end FlatArith
