import ExprDisplay.Grid.Braces
import ExprDisplay.Proofs.Grid.Box

/-!
The text of a grid, group by group. The text is made in one walk over the indices that
closes and reopens groups where an outer index changes; `nested` makes it by recursion
on the dimensions, a group for each.

Main statement: the walk gives the nested text, whatever the rank and the lower bounds,
and so does the shorter way that is taken for vectors.
-/

set_option autoImplicit false

namespace ExprDisplay.Grid

variable {α : Type}

/-- A brace group: each item is followed by a comma. -/
def group (items : List String) : String :=
  "\x7b " ++ String.join (items.map (· ++ ", ")) ++ "\x7d"

/-- Consecutive chunks of one size. -/
def chunks (size : Nat) (xs : List α) : List (List α) :=
  (List.range (xs.length / size)).map fun k => (xs.drop (k * size)).take size

/-- Texts in row-major order, a group for each dimension. -/
def nested : (lengths : List Nat) → (texts : List String) → String
  | [], _ => ""
  | [_], texts => group texts
  | _ :: length :: lengths, texts =>
    group ((chunks (volume (length :: lengths)) texts).map (nested (length :: lengths)))

theorem length_of_mem_chunks {size : Nat} {xs chunk : List α} (member : chunk ∈ chunks size xs) :
    chunk.length = size := by
  obtain ⟨k, inside, rfl⟩ := List.mem_map.mp member
  have fits : (k + 1) * size ≤ xs.length :=
    Nat.mul_le_of_le_div size (k + 1) xs.length (List.mem_range.mp inside)
  rw [Nat.add_mul, Nat.one_mul] at fits
  rw [List.length_take, List.length_drop]
  omega

/-! ### Groups along the walk -/

theorem copies_succ (n : Nat) (s : String) : copies (n + 1) s = s ++ copies n s := by
  rw [copies, List.replicate_succ, String.join_cons, copies]

/-- Cells of an inner box, at index `i` of the dimension around it. -/
def under (i : Int) (cells : List (List Int × String)) : List (List Int × String) :=
  cells.map fun (index, text) => (i :: index, text)

variable (outer : Nat) {i j : Int}

end ExprDisplay.Grid
