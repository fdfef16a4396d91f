/-!
Sets of characters given by ranges of code points.
-/
namespace ExprDisplay.Text

/-- Inclusive ranges of code points, in increasing order. -/
abbrev Ranges := List (Nat × Nat)

def Ranges.contains : Ranges → Char → Bool
  | [], _ => false
  | (first, last) :: rest, c =>
    if c.toNat < first then false else if c.toNat ≤ last then true else Ranges.contains rest c

end ExprDisplay.Text
