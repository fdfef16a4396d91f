import ExprDisplay.Grid.Cursor

/-!
The text of a grid: a brace group per dimension, each item followed by a comma
(`{ { 1, 2, }, { 3, 4, }, }`). The text is made in one walk over the indices;
groups are closed and reopened where an outer index changes.
-/
namespace ExprDisplay.Grid

/-- Concatenation of `n` copies. -/
def copies (n : Nat) (s : String) : String := String.join (List.replicate n s)

/-- The first of the outer dimensions in which two indices differ. -/
def changed? (outer : Nat) (previous index : List Int) : Option Nat :=
  ((previous.zip index).take outer).findIdx? fun (p, i) => p != i

/-- What stands between two cells: groups from the changed dimension inward are
closed and reopened. -/
def regroup (outer : Nat) (previous index : List Int) : String :=
  match changed? outer previous index with
  | none => ""
  | some d => copies (outer - d) "\x7d, " ++ copies (outer - d) "\x7b "

/-- The cells after the one at index `previous`. -/
def walkFrom (outer : Nat) : (previous : List Int) → List (List Int × String) → String
  | _, [] => ""
  | previous, (index, text) :: rest =>
    regroup outer previous index ++ text ++ ", " ++ walkFrom outer index rest

/-- All cells, the first of which opens the outer groups. -/
def walk (outer : Nat) : List (List Int × String) → String
  | [] => ""
  | (index, text) :: rest => copies outer "\x7b " ++ text ++ ", " ++ walkFrom outer index rest

/-- The text of a grid of texts. A grid without cells has no groups, whatever its rank. -/
def braces (g : Grid String) : String :=
  if g.isEmpty then "\x7b \x7d"
  else if g.rank = 1 && g.isZeroBased then
    "\x7b " ++ String.join (g.cells.map (· ++ ", ")) ++ "\x7d"
  else
    "\x7b " ++ walk (g.rank - 1) g.indexed ++ copies (g.rank - 1) "\x7d, " ++ "\x7d"

end ExprDisplay.Grid
