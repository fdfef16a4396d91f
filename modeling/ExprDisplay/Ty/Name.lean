import ExprDisplay.Ty.Basic

/-!
Names of types. The source name is what a programmer writes (`int[][,]`), the
runtime name what a running program reports (`Int32[,][]`). They list the levels
of a jagged array in opposite orders.
-/
namespace ExprDisplay.Ty

/-- Brackets of one array level: a comma fewer than it has dimensions. -/
def brackets (rank : Nat) : String :=
  "[" ++ String.ofList (List.replicate (rank - 1) ',') ++ "]"

/-- A generic's name without its arity suffix, which starts at the first backtick. -/
def bareName (name : String) : String :=
  String.ofList (name.toList.takeWhile (· != '\x60'))

mutual

/-- The source name of the innermost element, then the brackets of the levels
passed so far and of those inside, outermost first. -/
def nameWith : (t : Ty) → (groups : String) → String
  | .primitive p, groups => p.keyword ++ groups
  | .named name _, groups => name ++ groups
  | .generic name _ [], groups => bareName name ++ groups
  | .generic name _ (t :: ts), groups =>
    bareName name ++ "<" ++ nameWith t "" ++ nameTail ts ++ ">" ++ groups
  | .array element rank, groups => nameWith element (groups ++ brackets rank)

/-- The names after the first in a list of arguments, each after a comma. -/
def nameTail : List Ty → String
  | [] => ""
  | t :: ts => ", " ++ nameWith t "" ++ nameTail ts

end

/-- The source name. -/
def name (t : Ty) : String := t.nameWith ""

/-- The runtime name; the brackets of a jagged array come innermost first. -/
def runtimeName : Ty → String
  | .primitive p => p.runtimeName
  | .named name _ => name
  | .generic name _ _ => name
  | .array element rank => runtimeName element ++ brackets rank

example : ((int.arrayOf 2).arrayOf 1).name = "int[][,]" := by decide
example : ((int.arrayOf 2).arrayOf 1).runtimeName = "Int32[,][]" := by decide

end ExprDisplay.Ty
