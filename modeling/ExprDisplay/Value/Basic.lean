import ExprDisplay.Grid.Basic

/-!
Literal values, as constants hold them.
-/
namespace ExprDisplay

inductive Value where
  | null
  | bool (b : Bool)
  | char (c : Char)
  /-- A signed 64-bit integer. -/
  | int (i : Int)
  /-- An unsigned 64-bit integer. -/
  | uint (n : Nat)
  | float (x : Float)
  | str (s : String)
  | array (g : Grid Value)
  /-- An object known only by its text. -/
  | object (text : String)

namespace Value

def isNull : Value → Bool
  | .null => true
  | _ => false

mutual

/-- Equality of values. Floats compare as numbers, so a value that is no number
differs from itself and both zeros are equal. -/
def beq : Value → Value → Bool
  | .null, .null => true
  | .bool a, .bool b => a == b
  | .char a, .char b => a == b
  | .int a, .int b => a == b
  | .uint a, .uint b => a == b
  | .float a, .float b => a == b
  | .str a, .str b => a == b
  | .object a, .object b => a == b
  | .array ⟨ls, bs, cs⟩, .array ⟨ms, ds, es⟩ => ls == ms && bs == ds && beqCells cs es
  | _, _ => false

def beqCells : List Value → List Value → Bool
  | [], [] => true
  | a :: as, b :: bs => beq a b && beqCells as bs
  | _, _ => false

end

instance : BEq Value := ⟨beq⟩

end Value

end ExprDisplay
