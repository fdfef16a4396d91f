import ExprDisplay.Node.OfExpr

/-!
The limit of a display tree. What stands at a depth below the limit is assembled
from what stands one and two levels further down, and at the limit it is a truncated
leaf; every property of trees under a limit is proved along these two cases.
-/

set_option autoImplicit false

namespace ExprDisplay.Node

/-- How expressions at `depth` are built under `limit`. -/
def builderAt (limit depth : Nat) : Builder := ofExprAt (limit - depth) depth

theorem ofExpr_eq_builderAt (limit : Nat) : ofExpr limit = builderAt limit 0 := rfl

theorem builderAt_of_le {limit depth : Nat} (reached : limit ≤ depth) :
    builderAt limit depth = truncated depth := by
  rw [builderAt, Nat.sub_eq_zero_of_le reached, ofExprAt]

theorem builderAt_of_lt {limit depth : Nat} (below : depth < limit) :
    builderAt limit depth =
      assemble (builderAt limit (depth + 1)) (builderAt limit (depth + 2)) := by
  simp only [builderAt]
  match levels : limit - depth with
  | 0 => omega
  | 1 =>
    have near : limit - (depth + 1) = 0 := by omega
    have far : limit - (depth + 2) = 0 := by omega
    simp only [near, far, ofExprAt]
  | rest + 2 =>
    have near : limit - (depth + 1) = rest + 1 := by omega
    have far : limit - (depth + 2) = rest := by omega
    simp only [near, far, ofExprAt]

/-- What holds of truncated leaves from the limit on, and of a node when it holds one
and two levels further down, holds at every depth. -/
theorem builderAt_induction {limit : Nat} {P : Nat → Builder → Prop}
    (stop : ∀ depth, limit ≤ depth → P depth (truncated depth))
    (step : ∀ depth, depth < limit → P (depth + 1) (builderAt limit (depth + 1)) →
      P (depth + 2) (builderAt limit (depth + 2)) →
      P depth (assemble (builderAt limit (depth + 1)) (builderAt limit (depth + 2))))
    (depth : Nat) : P depth (builderAt limit depth) := by
  induction left : limit - depth using Nat.strongRecOn generalizing depth with
  | ind left ih =>
    by_cases below : depth < limit
    · rw [builderAt_of_lt below]
      apply step depth below
      · exact ih (limit - (depth + 1)) (by omega) (depth + 1) rfl
      · exact ih (limit - (depth + 2)) (by omega) (depth + 2) rfl
    · rw [builderAt_of_le (Nat.le_of_not_lt below)]
      exact stop depth (Nat.le_of_not_lt below)

end ExprDisplay.Node
