import FlatArith.Machine

/-!
# The states of a run

A state is reachable from another when moves lead from the one to the other.  Facts about every moment
of a run are facts about every state that is reachable from the first.
-/

namespace FlatArith.Calculator

/-- Moves lead from the first machine to the second. -/
inductive Reaches (c : Calculator) (length : Nat) : Machine → Machine → Prop where
  | refl (m : Machine) : Reaches c length m m
  | shift {first m next : Machine} :
      Reaches c length first m → c.move length m = .shift next → Reaches c length first next
  | reduce {first m next : Machine} {reduction : Reduction} :
      Reaches c length first m → c.move length m = .reduce reduction next →
        Reaches c length first next

namespace Reaches

/-- What every move keeps holds in every state that is reachable from one where it holds. -/
theorem invariant {c : Calculator} {length : Nat} {holds : Machine → Prop}
    (shift : ∀ m next, holds m → c.move length m = .shift next → holds next)
    (reduce : ∀ m next reduction, holds m → c.move length m = .reduce reduction next → holds next)
    {first m : Machine} (h : c.Reaches length first m) (start : holds first) : holds m := by
  induction h with
  | refl => exact start
  | shift _ hMove ih => exact shift _ _ ih hMove
  | reduce _ hMove ih => exact reduce _ _ _ ih hMove

end Reaches

end FlatArith.Calculator
