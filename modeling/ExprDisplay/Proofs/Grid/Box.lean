import ExprDisplay.Grid.Cursor

/-!
The index box of a grid. The cursor counts like an odometer; the box is listed
dimension by dimension, the last one fastest. Numbers of the grid wrap around, those
of the box do not.

Main statement: the cursor of every grid that can be made lists its box, as long as
the lengths multiply to a count.
-/

set_option autoImplicit false

namespace ExprDisplay.Grid

variable {α : Type} {lengths : List Nat} {bounds : List Int}

/-! ### Numbers that wrap around -/

/-- How many cells a shape holds. -/
def volume (lengths : List Nat) : Nat := lengths.foldr (· * ·) 1

theorem wrapIndex_eq {i : Int} (least : leastIndex ≤ i) (greatest : i ≤ greatestIndex) :
    wrapIndex i = i := by
  unfold leastIndex at least
  unfold greatestIndex at greatest
  unfold wrapIndex greatestSize
  exact Int.bmod_eq_of_le (by omega) (by omega)

theorem wrapSize_mul (m n : Nat) : wrapSize (wrapSize m * n) = wrapSize (m * n) := by
  unfold wrapSize
  rw [Nat.mod_mul_mod]

/-- Wrapping around at each length is wrapping around once at the end. -/
theorem foldl_wrapSize (lengths : List Nat) (m : Nat) :
    lengths.foldl (fun count length => wrapSize (count * length)) (wrapSize m) =
      wrapSize (m * volume lengths) := by
  induction lengths generalizing m with
  | nil => rw [List.foldl_nil, volume, List.foldr_nil, Nat.mul_one]
  | cons length lengths ih =>
    rw [List.foldl_cons, wrapSize_mul, ih, Nat.mul_assoc]
    rfl

theorem cellCount_eq_wrapSize (lengths : List Nat) :
    cellCount lengths = wrapSize (volume lengths) := by
  have whole := foldl_wrapSize lengths 1
  rw [Nat.one_mul] at whole
  exact whole

theorem cellCount_eq (counted : volume lengths ≤ greatestSize) :
    cellCount lengths = volume lengths := by
  rw [cellCount_eq_wrapSize]
  exact Nat.mod_eq_of_lt (Nat.lt_succ_of_le counted)

/-! ### Lengths and their volume -/

theorem volume_drop {d : Nat} (inside : d < lengths.length) :
    volume (lengths.drop d) = volume (lengths.drop (d + 1)) * lengths.getD d 0 := by
  rw [List.drop_eq_getElem_cons inside, List.getElem_eq_getD 0, Nat.mul_comm]
  rfl

theorem volume_drop_dvd (lengths : List Nat) (d : Nat) :
    volume (lengths.drop d) ∣ volume lengths := by
  induction d generalizing lengths with
  | zero => exact Nat.dvd_refl _
  | succ d ih =>
    cases lengths with
    | nil => exact Nat.dvd_refl _
    | cons length lengths => exact Nat.dvd_trans (ih lengths) (Nat.dvd_mul_left _ _)

theorem length_le_volume (filled : 0 < volume lengths) {d : Nat} (inside : d < lengths.length) :
    lengths.getD d 0 ≤ volume lengths := by
  apply Nat.le_of_dvd filled
  have whole := volume_drop_dvd lengths d
  rw [volume_drop inside] at whole
  exact Nat.dvd_trans (Nat.dvd_mul_left _ _) whole

/-! ### Grids that can be made -/

/-- A grid made by the operations that validate its shape, from cells that a list can hold
and bounds that are indices. -/
inductive Built : Grid α → Prop where
  | vector {cells : List α} (few : (cells.length : Int) ≤ greatestIndex) : Built (vector cells)
  | ofCells {lengths : List Nat} {cells : List α} {g : Grid α}
    (few : (cells.length : Int) ≤ greatestIndex) : ofCells lengths cells = .ok g → Built g
  | withLowerBounds {g g' : Grid α} {bounds : List Int}
    (words : ∀ bound ∈ bounds, leastIndex ≤ bound ∧ bound ≤ greatestIndex) :
    Built g → g.withLowerBounds bounds = .ok g' → Built g'

/-- A dimension whose bound, length and end are indices. -/
structure Spans (length : Nat) (bound : Int) : Prop where
  starts : leastIndex ≤ bound
  long : (length : Int) ≤ greatestIndex
  ends : bound + length ≤ greatestIndex

/-- Dimensions whose sums do not wrap around. -/
structure Ranged (lengths : List Nat) (bounds : List Int) : Prop where
  bounded : bounds.length = lengths.length
  spans : ∀ d < lengths.length, Spans (lengths.getD d 0) (bounds.getD d 0)

/-- What validation establishes, as long as the lengths multiply to a count. A grid without
cells may have a length that is no index. -/
structure Shaped (g : Grid α) : Prop where
  ranked : g.lengths ≠ []
  bounded : g.lowerBounds.length = g.lengths.length
  filled : volume g.lengths = g.cells.length
  ranged : 0 < volume g.lengths → Ranged g.lengths g.lowerBounds

theorem ofCells_eq_ok {lengths : List Nat} {cells : List α} {g : Grid α}
    (made : ofCells lengths cells = .ok g) :
    lengths ≠ [] ∧ cellCount lengths = cells.length ∧
      g = ⟨lengths, lengths.map fun _ => 0, cells⟩ := by
  unfold ofCells at made
  split at made
  · contradiction
  next ranked =>
    split at made
    · contradiction
    next filled =>
      refine ⟨?_, Decidable.not_not.mp filled, (Except.ok.inj made).symm⟩
      rintro rfl
      exact ranked rfl

theorem withLowerBounds_eq_ok {g g' : Grid α} (moved : g.withLowerBounds bounds = .ok g') :
    bounds.length = g.lengths.length ∧ overflow? bounds g.lengths = none ∧
      g' = { g with lowerBounds := bounds } := by
  unfold withLowerBounds at moved
  split at moved
  · contradiction
  next rank =>
    split at moved
    · contradiction
    next within => exact ⟨Decidable.not_not.mp rank, within, (Except.ok.inj moved).symm⟩

/-- New bounds that are indices, with no dimension that ends too far. -/
theorem ranged_of_overflow? (bounded : bounds.length = lengths.length)
    (words : ∀ bound ∈ bounds, leastIndex ≤ bound ∧ bound ≤ greatestIndex)
    (within : overflow? bounds lengths = none) : Ranged lengths bounds := by
  refine ⟨bounded, fun d inside => ?_⟩
  have inside' : d < bounds.length := bounded ▸ inside
  have zipped : d < (bounds.zip lengths).length := by
    rw [List.length_zip]
    omega
  have member : (bounds[d], lengths[d]) ∈ bounds.zip lengths := by
    rw [← List.getElem_zip (h := zipped)]
    exact List.getElem_mem zipped
  have fits := List.findIdx?_eq_none_iff.mp within _ member
  have word := words bounds[d] (List.getElem_mem inside')
  rw [List.getElem_eq_getD 0, List.getElem_eq_getD 0] at fits
  rw [List.getElem_eq_getD 0] at word
  simp only [endsTooFar, Bool.or_eq_false_iff, decide_eq_false_iff_not] at fits
  exact ⟨word.1, by omega, by omega⟩

/-- Where there are cells, no dimension is longer than there are cells. -/
theorem ranged_zeroBased (few : (volume lengths : Int) ≤ greatestIndex)
    (positive : 0 < volume lengths) : Ranged lengths (lengths.map fun _ => 0) := by
  refine ⟨List.length_map _, fun d inside => ?_⟩
  have zero : (lengths.map fun _ => (0 : Int)).getD d 0 = 0 := by
    rw [List.getD_eq_getElem?_getD, List.getElem?_map]
    cases lengths[d]? <;> rfl
  have longest := length_le_volume positive inside
  rw [zero]
  exact ⟨by decide, by omega, by omega⟩

theorem Built.shaped {g : Grid α} (built : Built g) (counted : volume g.lengths ≤ greatestSize) :
    Shaped g := by
  induction built with
  | @vector cells few =>
    -- A vector is the zero-based grid of one length.
    have filled : volume [cells.length] = cells.length := Nat.mul_one _
    exact ⟨List.cons_ne_nil _ _, rfl, filled, ranged_zeroBased (filled.symm ▸ few)⟩
  | ofCells few made =>
    obtain ⟨ranked, count, rfl⟩ := ofCells_eq_ok made
    have filled := (cellCount_eq counted).symm.trans count
    exact ⟨ranked, List.length_map _, filled, ranged_zeroBased (filled.symm ▸ few)⟩
  | withLowerBounds words _ moved shaped =>
    obtain ⟨bounded, within, rfl⟩ := withLowerBounds_eq_ok moved
    have shaped := shaped counted
    exact ⟨shaped.ranked, bounded, shaped.filled, fun _ => ranged_of_overflow? bounded words within⟩

/-! ### The box -/

/-- `count` copies of a box side by side, for the indices from `first` on. -/
def slabs : (count : Nat) → (first : Int) → List (List Int) → List (List Int)
  | 0, _, _ => []
  | count + 1, first, inner => inner.map (first :: ·) ++ slabs count (first + 1) inner

/-- The indices of a box, the last dimension fastest. -/
def box : (lengths : List Nat) → (bounds : List Int) → List (List Int)
  | length :: lengths, bound :: bounds => slabs length bound (box lengths bounds)
  | _, _ => [[]]

theorem length_slabs (count : Nat) (first : Int) (inner : List (List Int)) :
    (slabs count first inner).length = count * inner.length := by
  induction count generalizing first with
  | zero => simp [slabs]
  | succ count ih =>
    rw [slabs, List.length_append, List.length_map, ih, Nat.add_mul]
    omega

theorem length_box {lengths : List Nat} {bounds : List Int}
    (bounded : bounds.length = lengths.length) : (box lengths bounds).length = volume lengths := by
  induction lengths generalizing bounds with
  | nil => rfl
  | cons length lengths ih =>
    cases bounds with
    | nil => simp at bounded
    | cons bound bounds =>
      rw [box, length_slabs, ih (Nat.succ.inj bounded)]
      rfl

/-! ### Counting through the box -/

/-- Within its bounds a dimension counts up without wrapping around. -/
theorem Spans.turn_eq {length : Nat} {bound i : Int} (spans : Spans length bound)
    (begun : bound ≤ i) (inside : i < bound + length) :
    Cursor.turn length bound i =
      if i + 1 < bound + length then (i + 1, false) else (bound, true) := by
  have starts := spans.starts
  have ends := spans.ends
  have unsigned : leastIndex ≤ (length : Int) := by
    unfold leastIndex
    omega
  rw [Cursor.turn, wrapIndex_eq unsigned spans.long, wrapIndex_eq (by omega) ends,
    wrapIndex_eq (by omega) (by omega)]

theorem Ranged.first {length : Nat} {bound : Int}
    (ranged : Ranged (length :: lengths) (bound :: bounds)) : Spans length bound :=
  ranged.spans 0 (Nat.zero_lt_succ _)

theorem Ranged.rest {length : Nat} {bound : Int}
    (ranged : Ranged (length :: lengths) (bound :: bounds)) : Ranged lengths bounds :=
  ⟨Nat.succ.inj ranged.bounded, fun d inside => ranged.spans (d + 1) (Nat.succ_lt_succ inside)⟩

/-- Counting up from the first of the indices gives the others one after the other, and
from the last one gives `after`. The flag tells a carry out of the first dimension. -/
inductive Run (step : List Int → List Int × Bool) :
    (first : List Int) → List (List Int) → (after : List Int × Bool) → Prop where
  | last {index : List Int} {after : List Int × Bool} :
    step index = after → Run step index [index] after
  | next {index following : List Int} {rest : List (List Int)} {after : List Int × Bool} :
    step index = (following, false) → Run step following rest after →
      Run step index (index :: rest) after

namespace Run

variable {step : List Int → List Int × Bool} {first : List Int} {indices : List (List Int)}

theorem append {middle : List Int} {others : List (List Int)} {after : List Int × Bool}
    (run : Run step first indices (middle, false)) (onward : Run step middle others after) :
    Run step first (indices ++ others) after := by
  generalize turn : (middle, false) = between at run
  induction run with
  | last stepped =>
    subst turn
    exact .next stepped onward
  | next stepped _ ih => exact .next stepped (ih turn)

/-- While the inner dimensions count, the outer one stays; then it takes the carry. -/
theorem slab {lengths : List Nat} {bounds first after : List Int}
    (run : Run (Cursor.advance lengths bounds) first indices (after, true))
    (length : Nat) (bound i : Int) :
    Run (Cursor.advance (length :: lengths) (bound :: bounds)) (i :: first) (indices.map (i :: ·))
      ((Cursor.turn length bound i).1 :: after, (Cursor.turn length bound i).2) := by
  generalize turn : (after, true) = between at run
  induction run with
  | last stepped =>
    subst turn
    refine .last ?_
    rw [Cursor.advance, stepped]
  | next stepped _ ih =>
    refine .next ?_ (ih turn)
    rw [Cursor.advance, stepped]

/-- The slabs from index `i` to the end of the dimension. -/
theorem slabs {length : Nat} {lengths : List Nat} {bound i : Int} {bounds : List Int}
    (spans : Spans length bound)
    (run : Run (Cursor.advance lengths bounds) bounds indices (bounds, true)) (count : Nat)
    (begun : bound ≤ i) (toEnd : i + (count + 1 : Nat) = bound + length) :
    Run (Cursor.advance (length :: lengths) (bound :: bounds)) (i :: bounds)
      (Grid.slabs (count + 1) i indices) (bound :: bounds, true) := by
  induction count generalizing i with
  | zero =>
    have last := run.slab length bound i
    rw [spans.turn_eq begun (by omega), if_neg (by omega)] at last
    rw [Grid.slabs, Grid.slabs, List.append_nil]
    exact last
  | succ count ih =>
    have first := run.slab length bound i
    rw [spans.turn_eq begun (by omega), if_pos (by omega)] at first
    rw [Grid.slabs]
    exact first.append (ih (by omega) (by omega))

/-- A whole round through a box that is not empty, back to the lower bounds. -/
theorem box {lengths : List Nat} {bounds : List Int} (ranged : Ranged lengths bounds)
    (filled : 0 < volume lengths) :
    Run (Cursor.advance lengths bounds) bounds (Grid.box lengths bounds) (bounds, true) := by
  induction lengths generalizing bounds with
  | nil =>
    obtain rfl : bounds = [] := List.eq_nil_of_length_eq_zero ranged.bounded
    exact .last rfl
  | cons length lengths ih =>
    cases bounds with
    | nil => exact absurd ranged.bounded (Nat.succ_ne_zero _).symm
    | cons bound bounds =>
      obtain ⟨count, rfl⟩ : ∃ count, length = count + 1 :=
        Nat.exists_eq_succ_of_ne_zero (Nat.ne_of_gt (Nat.pos_of_mul_pos_right filled))
      have inner := ih ranged.rest (Nat.pos_of_mul_pos_left filled)
      exact slabs ranged.first inner count (Int.le_refl bound) rfl

/-- The cursor gives the indices of a run. -/
theorem take_eq {lengths : List Nat} {bounds : List Int} {after : List Int × Bool}
    (run : Run (Cursor.advance lengths bounds) first indices after) :
    Cursor.take indices.length ⟨lengths, bounds, first, indices.length⟩ = indices := by
  induction run with
  | last _ => rfl
  | next stepped _ ih =>
    rw [List.length_cons, Cursor.take, Cursor.next?]
    simp only [stepped, ih]

end Run

theorem Shaped.indices_eq_box {g : Grid α} (shaped : Shaped g) :
    g.indices = box g.lengths g.lowerBounds := by
  have count : (box g.lengths g.lowerBounds).length = g.cells.length := by
    rw [length_box shaped.bounded, shaped.filled]
  by_cases filled : 0 < volume g.lengths
  · have run := (Run.box (shaped.ranged filled) filled).take_eq
    rw [count] at run
    exact run
  · have empty : g.cells.length = 0 := by
      rw [← shaped.filled]
      omega
    rw [indices, empty, Cursor.take, eq_comm, ← List.length_eq_zero_iff, count, empty]

end ExprDisplay.Grid
