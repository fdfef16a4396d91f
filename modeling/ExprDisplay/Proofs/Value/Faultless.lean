import ExprDisplay.Proofs.Grid.Checked
import ExprDisplay.Proofs.Value.NestedLiteral

/-!
The text of a value on a machine. A grid is written with checked operations from the texts
of its cells, which may hold grids again.

Main statement: a grid made from machine numbers has a shape, and neither calls of its
cursor nor its text run into a fault.
-/

set_option autoImplicit false

namespace ExprDisplay.Value

open Grid

/-- A value whose grids, also those inside cells, are made from machine numbers. -/
inductive Made : Value → Prop where
  | single {v : Value} (noGrid : ∀ g, v ≠ .array g) : Made v
  | array {g : Grid Value} (grid : g.Made) (cells : ∀ v ∈ g.cells, Made v) : Made (.array g)

mutual

def checkedLiteral : Value → (declared : Ty) → Checked String
  | .array ⟨lengths, bounds, cells⟩, declared => do
    let texts ← checkedLiterals cells declared.elementOrObject
    Checked.braces ⟨lengths, bounds, texts⟩
  | v, declared => .ok (v.literal declared)

def checkedLiterals : List Value → (declared : Ty) → Checked (List String)
  | [], _ => .ok []
  | v :: vs, declared => do
    let text ← checkedLiteral v declared
    return text :: (← checkedLiterals vs declared)

end

theorem checkedLiterals_eq {cells : List Value} {declared : Ty}
    (texts : ∀ v ∈ cells, v.checkedLiteral declared = .ok (v.literal declared)) :
    checkedLiterals cells declared = .ok (cells.map fun v => v.literal declared) := by
  induction cells with
  | nil => rfl
  | cons v vs ih =>
    have first := texts v List.mem_cons_self
    have rest := ih fun w member => texts w (List.mem_cons_of_mem v member)
    rw [checkedLiterals, first, Checked.ok_bind, rest, Checked.ok_bind]
    rfl

/-- The induction is on the nesting of grids: the texts of the cells come first. -/
theorem checkedLiteral_eq {v : Value} (made : v.Made) (declared : Ty) :
    v.checkedLiteral declared = .ok (v.literal declared) := by
  induction made generalizing declared with
  | single noGrid =>
    rw [checkedLiteral]
    exact fun lengths bounds cells => noGrid ⟨lengths, bounds, cells⟩
  | @array g grid _ ih =>
    have shaped := shaped_cellTexts grid.shaped declared
    rw [checkedLiteral, checkedLiterals_eq fun v member => ih v member declared.elementOrObject,
      Checked.ok_bind, literal_array, elementOrObject_eq_cellType]
    exact shaped.checked_braces

/-- A grid made from machine numbers has a dimension, a bound for every length, and as many
cells as its lengths multiply to without overflow. Any number of calls of its cursor and the
whole of its text, cells included, are free of faults and give what they give with numbers
that wrap around. -/
theorem array_faultless {g : Grid Value} (made : (Value.array g).Made) :
    1 ≤ g.rank ∧ g.lowerBounds.length = g.lengths.length ∧ volume g.lengths = g.size ∧
    Checked.product g.lengths = .ok g.size ∧
    (∀ n, Checked.calls n g.cursor =
      .ok ((List.range n).map fun k => (g.cursor.after k).call.1)) ∧
    ∀ declared, (Value.array g).checkedLiteral declared =
      .ok ((Value.array g).literal declared) := by
  have grid : g.Made := by
    cases made with
    | single noGrid => exact absurd rfl (noGrid g)
    | array grid _ => exact grid
  have shaped := grid.shaped
  have product : Checked.product g.lengths = .ok g.size := by
    rw [Checked.product_eq grid.products, shaped.filled]
    rfl
  exact ⟨shaped.rank_pos, shaped.bounded, shaped.filled, product,
    fun n => Checked.calls_eq shaped.ready, checkedLiteral_eq made⟩

/-- One row of two cells at the greatest indices there are. The second cell is a grid
without cells, one of whose lengths is past them. -/
theorem array_faultless_edge :
    let empty : Grid Value := ⟨[0, 0x8000000000000000], [0, 0], []⟩
    let row : Grid Value := ⟨[1, 2], [greatestIndex - 1, greatestIndex - 2], [.int 1, .array empty]⟩
    (Value.array row).Made ∧
      Checked.calls 3 row.cursor = .ok [some [greatestIndex - 1, greatestIndex - 2],
        some [greatestIndex - 1, greatestIndex - 1], none] ∧
      (Value.array row).checkedLiteral .object = .ok "\x7b \x7b 1, \x7b \x7d, \x7d, \x7d" := by
  intro empty row
  have noCells : empty.Made := by
    have made : Grid.ofCells [0, 0x8000000000000000] [] = .ok empty := rfl
    refine .ofCells (fun k => ?_) (by decide) made
    rcases k with _ | _ | k
    · decide
    · decide
    · simp [volume]
  have cells : ∀ v ∈ row.cells, v.Made := by
    intro v member
    rcases List.mem_cons.mp member with rfl | last
    · refine .single ?_
      rintro g ⟨⟩
    · rw [List.mem_singleton.mp last]
      refine .array noCells ?_
      rintro v ⟨⟩
  have grid : row.Made := by
    have made : Grid.ofCells [1, 2] row.cells = .ok ⟨[1, 2], [0, 0], row.cells⟩ := rfl
    have moved : Grid.withLowerBounds ⟨[1, 2], [0, 0], row.cells⟩
        [greatestIndex - 1, greatestIndex - 2] = .ok row := rfl
    refine .withLowerBounds (by decide) (.ofCells (fun k => ?_) (by decide) made) moved
    rcases k with _ | _ | k
    · decide
    · decide
    · simp [volume, greatestSize]
  have made : (Value.array row).Made := .array grid cells
  obtain ⟨-, -, -, -, calls, text⟩ := array_faultless made
  refine ⟨made, (calls 3).trans (congrArg Except.ok (by decide)), (text .object).trans ?_⟩
  exact congrArg Except.ok (by decide +kernel)

end ExprDisplay.Value
