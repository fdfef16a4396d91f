import ExprDisplay.Proofs.Grid.Nested
import ExprDisplay.Value.Literal

/-!
The text of a value with grids in it. A grid is written from the texts of its cells,
and these may hold grids again.

Main statement: as long as its lengths multiply to a count, the text of a grid is the
nested text of its cells' texts, which does not show the lower bounds; where that holds
of all grids inside too, it is the text by recursion all the way down.
-/

set_option autoImplicit false

namespace ExprDisplay.Value

/-- A value whose grids, also those inside its cells, can be made and have lengths that
multiply to a count. -/
inductive Built : Value → Prop where
  | single {v : Value} (noGrid : ∀ g, v ≠ .array g) : Built v
  | array {g : Grid Value} (grid : g.Built) (counted : Grid.volume g.lengths ≤ Grid.greatestSize)
    (cells : ∀ v ∈ g.cells, Built v) : Built (.array g)

theorem sizeOf_lt_of_mem_cells {g : Grid Value} {v : Value} (member : v ∈ g.cells) :
    sizeOf v < sizeOf (Value.array g) := by
  obtain ⟨lengths, bounds, cells⟩ := g
  have inner : sizeOf v < sizeOf cells := List.sizeOf_lt_of_mem member
  rw [array.sizeOf_spec, Grid.mk.sizeOf_spec]
  omega

/-- What holds of every value that is no grid, and of a grid as soon as it holds of its
cells, holds of all values. -/
theorem cell_induction {P : Value → Prop} (single : ∀ v, (∀ g, v ≠ .array g) → P v)
    (array : ∀ g : Grid Value, (∀ v ∈ g.cells, P v) → P (.array g)) (v : Value) : P v := by
  induction size : sizeOf v using Nat.strongRecOn generalizing v with
  | ind size ih =>
    subst size
    cases v with
    | array g => exact array g fun v member => ih (sizeOf v) (sizeOf_lt_of_mem_cells member) v rfl
    | _ => exact single _ nofun

/-- What the cells of a grid are declared as. -/
def cellType : (declared : Ty) → Ty
  | .array element _ => element
  | _ => .object

theorem elementOrObject_eq_cellType (declared : Ty) :
    declared.elementOrObject = cellType declared := by
  cases declared <;> rfl

mutual

/-- The text of a value with the texts of all grids nested. -/
def nestedLiteral : Value → (declared : Ty) → String
  | .array ⟨lengths, _, cells⟩, declared =>
    if cells = [] then "\x7b \x7d"
    else Grid.nested lengths (nestedLiterals cells (cellType declared))
  | v, declared => v.literal declared

def nestedLiterals : List Value → (declared : Ty) → List String
  | [], _ => []
  | v :: vs, declared => nestedLiteral v declared :: nestedLiterals vs declared

end

theorem literals_eq_map (cells : List Value) (declared : Ty) :
    literals cells declared = cells.map fun v => v.literal declared := by
  induction cells with
  | nil => rfl
  | cons v vs ih => rw [literals, ih, List.map_cons]

/-- The texts of a grid's cells, at their indices. -/
def cellTexts (g : Grid Value) (declared : Ty) : Grid String :=
  ⟨g.lengths, g.lowerBounds, g.cells.map fun v => v.literal (cellType declared)⟩

theorem literal_array (g : Grid Value) (declared : Ty) :
    (Value.array g).literal declared = (cellTexts g declared).braces := by
  rw [literal, literals_eq_map, elementOrObject_eq_cellType, cellTexts]

theorem shaped_cellTexts {g : Grid Value} (shaped : g.Shaped) (declared : Ty) :
    (cellTexts g declared).Shaped :=
  ⟨shaped.ranked, shaped.bounded, shaped.filled.trans (List.length_map _).symm, shaped.ranged⟩

end ExprDisplay.Value
