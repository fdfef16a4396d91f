import ExprDisplay.Grid.Basic

/-!
The walk over a grid's index box in row-major order.
-/
namespace ExprDisplay.Grid

/-- A walk in progress: the index to be given next and how many remain. -/
structure Cursor where
  lengths : List Nat
  lowerBounds : List Int
  current : List Int
  remaining : Nat
  deriving DecidableEq, Repr

namespace Cursor

/-- One dimension counted up by one. Past its end it returns to its lower bound
and carries, as the flag says. The sums wrap around, and so does the length where
it is more than an index can be. -/
def turn (length : Nat) (bound i : Int) : Int × Bool :=
  if wrapIndex (i + 1) < wrapIndex (bound + wrapIndex length) then (wrapIndex (i + 1), false)
  else (bound, true)

/-- Counts an index up by one, last dimension first, as far as the dimensions carry;
the flag says whether the first one did. -/
def advance : (lengths : List Nat) → (bounds index : List Int) → List Int × Bool
  | length :: lengths, bound :: bounds, i :: index =>
    match advance lengths bounds index with
    | (rest, false) => (i :: rest, false)
    | (rest, true) =>
      let (i, carried) := turn length bound i
      (i :: rest, carried)
  | _, _, index => (index, true)

/-- The next index and the walk after it. -/
def next? (c : Cursor) : Option (List Int × Cursor) :=
  match c.remaining with
  | 0 => none
  | remaining + 1 =>
    some (c.current,
      { c with
        current := (advance c.lengths c.lowerBounds c.current).1
        remaining })

/-- The indices of the next `n` calls. -/
def take : (n : Nat) → Cursor → List (List Int)
  | 0, _ => []
  | n + 1, c =>
    match c.next? with
    | none => []
    | some (index, c) => index :: take n c

end Cursor

variable {α : Type}

/-- The walk from the first index. -/
def cursor (g : Grid α) : Cursor := ⟨g.lengths, g.lowerBounds, g.lowerBounds, g.cells.length⟩

/-- All indices, in row-major order. -/
def indices (g : Grid α) : List (List Int) := g.cursor.take g.cells.length

/-- Cells with their indices. -/
def indexed (g : Grid α) : List (List Int × α) := g.indices.zip g.cells

end ExprDisplay.Grid
