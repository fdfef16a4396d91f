import ExprDisplay.Decimal.Shortest
import ExprDisplay.Grid.Braces
import ExprDisplay.Ty.Basic
import ExprDisplay.Value.Basic

/-!
The text of a literal value, which depends on its declared type only where a
float is declared in single precision.
-/
namespace ExprDisplay.Value

def nullText : String := "null"

mutual

/-- Text of a value of the declared type. Strings are quoted as they are; the
cells of a grid are declared with the element type. -/
def literal : Value → (declared : Ty) → String
  | .null, _ => nullText
  | .bool true, _ => "True"
  | .bool false, _ => "False"
  | .char c, _ => "'" ++ String.singleton c ++ "'"
  | .int i, _ => toString i
  | .uint n, _ => toString n
  | .float x, declared =>
    if declared = .single then Decimal.singleText x else Decimal.doubleText x
  | .str s, _ => "\"" ++ s ++ "\""
  | .object text, _ => text
  | .array ⟨lengths, bounds, cells⟩, declared =>
    Grid.braces ⟨lengths, bounds, literals cells declared.elementOrObject⟩

def literals : List Value → (declared : Ty) → List String
  | [], _ => []
  | v :: vs, declared => literal v declared :: literals vs declared

end

end ExprDisplay.Value
