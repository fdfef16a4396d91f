/-!
JSON values. Numbers keep the digits they are written with, so nothing is lost
by reading one.
-/
namespace ExprDisplay

inductive Json where
  | null
  | bool (b : Bool)
  | number (literal : String)
  | string (s : String)
  | array (items : List Json)
  | object (fields : List (String × Json))
  deriving Repr

namespace Json

/-- The first field of that name. -/
def field? (name : String) : Json → Option Json
  | .object fields => fields.lookup name
  | _ => none

def int (i : Int) : Json := .number (toString i)

end Json

end ExprDisplay
