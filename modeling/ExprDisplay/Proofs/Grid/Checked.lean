import ExprDisplay.Grid.Braces
import ExprDisplay.Proofs.Grid.RowMajor

/-!
Grids on a machine. Bounds and indices are signed numbers of 64 bits there and lengths
unsigned ones; lists are read and written at positions. `Checked` computations do the
same work as the walk over the indices and the text of a grid, one operation at a time,
and report a fault where a number leaves its range or a position its list.

Main statements: on every grid made from such numbers whose products are counts, the
product of the lengths, any number of calls of the cursor and the text are free of faults,
and have the values that wrapping around would give.
-/

set_option autoImplicit false

namespace ExprDisplay.Grid

variable {α : Type} {lengths : List Nat} {bounds index : List Int}

/-- Why a machine stops. -/
inductive Fault where
  | overflow
  | outOfRange
  deriving DecidableEq, Repr

abbrev Checked (α : Type) := Except Fault α

namespace Checked

/-! ### Operations -/

/-- A signed number, also one that is cast from a length. -/
def signed (i : Int) : Checked Int :=
  if leastIndex ≤ i ∧ i ≤ greatestIndex then .ok i else .error .overflow

def minus (m n : Nat) : Checked Nat := if n ≤ m then .ok (m - n) else .error .overflow

def times (m n : Nat) : Checked Nat :=
  if m * n ≤ greatestSize then .ok (m * n) else .error .overflow

def entry (xs : List α) (d : Nat) : Checked α := xs[d]?.elim (.error .outOfRange) .ok

def replace (xs : List α) (d : Nat) (x : α) : Checked (List α) :=
  if d < xs.length then .ok (xs.set d x) else .error .outOfRange

theorem signed_eq {i : Int} (least : leastIndex ≤ i) (greatest : i ≤ greatestIndex) :
    signed i = .ok i := if_pos ⟨least, greatest⟩

theorem minus_eq {m n : Nat} (enough : n ≤ m) : minus m n = .ok (m - n) := if_pos enough

theorem entry_eq {xs : List α} {d : Nat} (inside : d < xs.length) (x : α) :
    entry xs d = .ok (xs.getD d x) := by
  rw [entry, List.getElem?_eq_getElem inside, List.getElem_eq_getD x]
  rfl

theorem replace_eq {xs : List α} {d : Nat} (inside : d < xs.length) (x : α) :
    replace xs d x = .ok (xs.set d x) := if_pos inside

theorem ok_bind {β : Type} (x : α) (f : α → Checked β) : (Except.ok x >>= f) = f x := rfl

/-! ### The product of the lengths -/

/-- The lengths multiplied from the first to the last. -/
def product (lengths : List Nat) : Checked Nat := lengths.foldlM times 1

theorem foldlM_times {lengths : List Nat} {m : Nat}
    (fits : ∀ k, m * volume (lengths.take k) ≤ greatestSize) :
    lengths.foldlM times m = .ok (m * volume lengths) := by
  induction lengths generalizing m with
  | nil => exact congrArg Except.ok (Nat.mul_one m).symm
  | cons length lengths ih =>
    have whole (lengths : List Nat) :
        m * volume (length :: lengths) = m * length * volume lengths :=
      (Nat.mul_assoc _ _ _).symm
    have first : m * length ≤ greatestSize := by
      have := fits 1
      rwa [List.take_succ_cons, List.take_zero, whole, volume, List.foldr_nil, Nat.mul_one] at this
    have step : times m length = .ok (m * length) := if_pos first
    rw [List.foldlM_cons, step, ok_bind, whole]
    apply ih
    intro k
    rw [← whole]
    exact fits (k + 1)

theorem product_eq (fits : ∀ k, volume (lengths.take k) ≤ greatestSize) :
    product lengths = .ok (volume lengths) := by
  have fromOne : ∀ k, 1 * volume (lengths.take k) ≤ greatestSize := by
    intro k
    rw [Nat.one_mul]
    exact fits k
  rw [product, foldlM_times fromOne, Nat.one_mul]

/-! ### Counting up -/

/-- Counts up the dimensions before `dims`, last first, as far as they carry. -/
def countUp (lengths : List Nat) (bounds : List Int) : (dims : Nat) → List Int → Checked (List Int)
  | 0, current => .ok current
  | dim + 1, current => do
    let i ← signed ((← entry current dim) + 1)
    let current ← replace current dim i
    let bound ← entry bounds dim
    let stop ← signed (bound + (← signed (← entry lengths dim)))
    if i < stop then return current
    else countUp lengths bounds dim (← replace current dim bound)

/-- The last dimension counts first and carries into the others. -/
theorem advance_append (bounded : bounds.length = lengths.length)
    (ranked : index.length = lengths.length) (length : Nat) (bound i : Int) :
    Cursor.advance (lengths ++ [length]) (bounds ++ [bound]) (index ++ [i]) =
      if (Cursor.turn length bound i).2 then
        ((Cursor.advance lengths bounds index).1 ++ [(Cursor.turn length bound i).1],
          (Cursor.advance lengths bounds index).2)
      else (index ++ [(Cursor.turn length bound i).1], false) := by
  induction lengths generalizing bounds index with
  | nil =>
    obtain rfl := List.eq_nil_of_length_eq_zero bounded
    obtain rfl := List.eq_nil_of_length_eq_zero ranked
    simp only [List.nil_append, Cursor.advance]
    cases (Cursor.turn length bound i).2 <;> rfl
  | cons first lengths ih =>
    rcases bounds with _ | ⟨start, bounds⟩
    · simp at bounded
    rcases index with _ | ⟨j, index⟩
    · simp at ranked
    have inner := ih (Nat.succ.inj bounded) (Nat.succ.inj ranked)
    simp only [List.cons_append, Cursor.advance, inner]
    cases (Cursor.turn length bound i).2 with
    | false => rfl
    | true =>
      rcases Cursor.advance lengths bounds index with ⟨rest, carried⟩
      cases carried <;> rfl

theorem take_succ_getD {xs : List α} {d : Nat} (inside : d < xs.length) (x : α) :
    xs.take (d + 1) = xs.take d ++ [xs.getD d x] := by
  rw [List.take_succ_eq_append_getElem inside, List.getElem_eq_getD x]

theorem drop_set_self {xs : List α} {d : Nat} (inside : d < xs.length) (x : α) :
    (xs.set d x).drop d = x :: xs.drop (d + 1) := by
  rw [List.drop_set, if_neg (Nat.lt_irrefl d), Nat.sub_self, List.drop_eq_getElem_cons inside,
    List.set_cons_zero]

/-- One dimension: it counts up, or starts over and leaves the others to count. -/
theorem countUp_succ (ranged : Ranged lengths bounds) {current : List Int}
    (ranked : current.length = lengths.length) {dim : Nat} (known : dim < lengths.length)
    (inside : bounds.getD dim 0 ≤ current.getD dim 0 ∧
      current.getD dim 0 < bounds.getD dim 0 + lengths.getD dim 0) :
    countUp lengths bounds (dim + 1) current =
      if current.getD dim 0 + 1 < bounds.getD dim 0 + lengths.getD dim 0 then
        .ok (current.set dim (current.getD dim 0 + 1))
      else countUp lengths bounds dim (current.set dim (bounds.getD dim 0)) := by
  obtain ⟨start, size, stop⟩ := ranged.spans dim known
  have unsigned : leastIndex ≤ (lengths.getD dim 0 : Int) := by
    unfold leastIndex
    omega
  have known' : dim < (current.set dim (current.getD dim 0 + 1)).length := by
    rwa [List.length_set, ranked]
  rw [countUp, entry_eq (ranked ▸ known) 0, ok_bind, signed_eq (by omega) (by omega), ok_bind,
    replace_eq (ranked ▸ known), ok_bind, entry_eq (ranged.bounded ▸ known) 0, ok_bind,
    entry_eq known 0, ok_bind, signed_eq unsigned size, ok_bind, signed_eq (by omega) stop,
    ok_bind, replace_eq known', ok_bind, List.set_set]
  rfl

/-- Counting up has no fault where the index is within the bounds. The dimensions from `dims`
on have carried already and are not looked at again. -/
theorem countUp_eq (ranged : Ranged lengths bounds) {current : List Int}
    (ranked : current.length = lengths.length) {dims : Nat} (known : dims ≤ lengths.length)
    (inside : ∀ d < dims, bounds.getD d 0 ≤ current.getD d 0 ∧
      current.getD d 0 < bounds.getD d 0 + lengths.getD d 0) :
    countUp lengths bounds dims current =
      .ok ((Cursor.advance (lengths.take dims) (bounds.take dims) (current.take dims)).1 ++
        current.drop dims) := by
  induction dims generalizing current with
  | zero => rfl
  | succ dim ih =>
    have here : dim < current.length := ranked ▸ known
    have bounded : (bounds.take dim).length = (lengths.take dim).length := by
      rw [List.length_take, List.length_take, ranged.bounded]
    have counted : (current.take dim).length = (lengths.take dim).length := by
      rw [List.length_take, List.length_take, ranked]
    obtain ⟨begun, below⟩ := inside dim (Nat.lt_succ_self dim)
    rw [countUp_succ ranged ranked known ⟨begun, below⟩,
      take_succ_getD known 0, take_succ_getD (ranged.bounded ▸ known) 0, take_succ_getD here 0,
      advance_append bounded counted, (ranged.spans dim known).turn_eq begun below]
    by_cases room : current.getD dim 0 + 1 < bounds.getD dim 0 + lengths.getD dim 0
    · simp only [if_pos room, Bool.false_eq_true, if_false]
      rw [List.set_eq_take_append_cons_drop, if_pos here, List.append_assoc]
      rfl
    · simp only [if_neg room, if_true]
      rw [ih (by rwa [List.length_set]) (Nat.le_of_succ_le known), drop_set_self here,
        List.take_set_of_le (Nat.le_refl dim), List.append_assoc]
      · rfl
      · intro d earlier
        have other : dim ≠ d := Nat.ne_of_gt earlier
        rw [List.getD_eq_getElem?_getD (l := current.set _ _), List.getElem?_set_ne other,
          ← List.getD_eq_getElem?_getD]
        exact inside d (Nat.lt_succ_of_lt earlier)

/-! ### Calls of the cursor -/

/-- The next index and the walk after it. -/
def next (c : Cursor) : Checked (Option (List Int × Cursor)) :=
  if c.remaining = 0 then .ok none
  else do
    let remaining ← minus c.remaining 1
    let current ← countUp c.lengths c.lowerBounds c.current.length c.current
    return some (c.current, { c with current, remaining })

def call (c : Cursor) : Checked (Option (List Int) × Cursor) := do
  match ← next c with
  | none => return (none, c)
  | some (index, later) => return (some index, later)

/-- The answers of the next `n` calls. -/
def calls : (n : Nat) → Cursor → Checked (List (Option (List Int)))
  | 0, _ => .ok []
  | n + 1, c => do
    let answered ← call c
    return answered.1 :: (← calls n answered.2)

/-- A cursor that can count up: as long as something remains it stands within its bounds. -/
def Ready (c : Cursor) : Prop :=
  c.remaining ≠ 0 → Ranged c.lengths c.lowerBounds ∧ InBox c.lengths c.lowerBounds c.current

theorem next_eq {c : Cursor} (ready : Ready c) : next c = .ok c.next? := by
  obtain ⟨lengths, bounds, current, remaining⟩ := c
  cases remaining with
  | zero => rfl
  | succ remaining =>
    obtain ⟨ranged, ranked, inside⟩ := ready (Nat.succ_ne_zero remaining)
    have known : current.length ≤ lengths.length := Nat.le_of_eq ranked
    have counted := countUp_eq ranged ranked known fun d before => inside d (ranked ▸ before)
    rw [List.take_length, List.drop_length, List.append_nil, ranked, List.take_length,
      ← ranged.bounded, List.take_length] at counted
    rw [next, if_neg (Nat.succ_ne_zero remaining), minus_eq (Nat.succ_le_succ (Nat.zero_le _)),
      ok_bind, ranked, ← ranged.bounded, counted, ok_bind]
    rfl

/-- The call that counts up a dimension past the greatest index is at fault. -/
example : next ⟨[1], [greatestIndex], [greatestIndex], 1⟩ = .error .overflow := rfl

theorem call_eq {c : Cursor} (ready : Ready c) : call c = .ok c.call := by
  rw [call, next_eq ready, ok_bind, Cursor.call]
  cases c.next? <;> rfl

theorem calls_eq {n : Nat} {c : Cursor} (ready : ∀ k, Ready (c.after k)) :
    calls n c = .ok ((List.range n).map fun k => (c.after k).call.1) := by
  induction n generalizing c with
  | zero => rfl
  | succ n ih =>
    have first : call c = .ok c.call := call_eq (ready 0)
    have later : calls n c.call.2 = .ok ((List.range n).map fun k => (c.after (k + 1)).call.1) :=
      ih fun k => ready (k + 1)
    rw [calls, first, ok_bind, later, ok_bind, List.range_succ_eq_map, List.map_cons, List.map_map]
    rfl

/-! ### The text -/

/-- The first of `count` dimensions from `d` on in which two indices differ. -/
def changedFrom (previous index : List Int) : (count d : Nat) → Checked (Option Nat)
  | 0, _ => .ok none
  | count + 1, d => do
    if (← entry previous d) != (← entry index d) then return some d
    else changedFrom previous index count (d + 1)

def regroup (outer : Nat) (previous index : List Int) : Checked String := do
  match ← changedFrom previous index outer 0 with
  | none => return ""
  | some d =>
    let groups ← minus outer d
    return copies groups "\x7d, " ++ copies groups "\x7b "

/-- The cells that the cursor has still to give an index to. It is also asked for an index
when no cell is left. -/
def walk (outer : Nat) : (texts : List String) → (previous : Option (List Int)) → Cursor →
    Checked String
  | [], _, c => do
    let _ ← next c
    return ""
  | text :: rest, previous, c => do
    match ← next c with
    | none => return ""
    | some (index, later) =>
      let between ← previous.elim (.ok (copies outer "\x7b ")) fun p => regroup outer p index
      return between ++ text ++ ", " ++ (← walk outer rest (some index) later)

def braces (g : Grid String) : Checked String :=
  if g.isEmpty then .ok "\x7b \x7d"
  else if g.rank = 1 && g.isZeroBased then
    .ok ("\x7b " ++ String.join (g.cells.map (· ++ ", ")) ++ "\x7d")
  else do
    let outer ← minus g.rank 1
    let cells ← walk outer g.cells none g.cursor
    return "\x7b " ++ cells ++ copies outer "\x7d, " ++ "\x7d"

theorem changedFrom_eq {previous : List Int} {count d : Nat} (long : d + count ≤ previous.length)
    (long' : d + count ≤ index.length) :
    changedFrom previous index count d =
      .ok (((((previous.zip index).drop d).take count).findIdx? fun (p, i) => p != i).map
        (· + d)) := by
  induction count generalizing d with
  | zero => simp [changedFrom]
  | succ count ih =>
    have here : d < previous.length := by omega
    have here' : d < index.length := by omega
    have zipped : d < (previous.zip index).length := by
      rw [List.length_zip]
      omega
    rw [changedFrom, entry_eq here 0, ok_bind, entry_eq here' 0, ok_bind,
      List.drop_eq_getElem_cons zipped, List.take_succ_cons, List.findIdx?_cons, List.getElem_zip,
      List.getElem_eq_getD 0, List.getElem_eq_getD 0]
    split
    · simp
      rfl
    · rw [ih (by omega) (by omega), Option.map_map]
      congr 2
      funext i
      simp only [Function.comp_apply]
      omega

theorem regroup_eq {outer : Nat} {previous : List Int} (long : outer ≤ previous.length)
    (long' : outer ≤ index.length) :
    regroup outer previous index = .ok (Grid.regroup outer previous index) := by
  have changed : changedFrom previous index outer 0 = .ok (changed? outer previous index) := by
    rw [changedFrom_eq (by omega) (by omega), List.drop_zero, changed?]
    simp
  rw [regroup, changed, ok_bind, Grid.regroup]
  cases found : changed? outer previous index with
  | none => rfl
  | some d =>
    obtain ⟨before, -⟩ := List.findIdx?_eq_some_iff_getElem.mp found
    have outside : d ≤ outer := by
      rw [List.length_take] at before
      omega
    simp only [minus_eq outside, ok_bind]
    rfl

/-- The walk over the cells has no fault and gives the same text, whether it starts at the
first cell or after an index. -/
theorem walk_eq {outer : Nat} {texts : List String} {c : Cursor}
    (ready : ∀ k, Ready (c.after k)) (enough : texts.length = c.remaining)
    (long : ∀ index ∈ c.take texts.length, outer ≤ index.length)
    (previous : Option (List Int)) (long' : ∀ p ∈ previous, outer ≤ p.length) :
    walk outer texts previous c =
      .ok (previous.elim (Grid.walk outer) (Grid.walkFrom outer)
        ((c.take texts.length).zip texts)) := by
  induction texts generalizing c previous with
  | nil =>
    have first : next c = .ok c.next? := next_eq (ready 0)
    rw [walk, first, ok_bind, List.zip_nil_right]
    cases previous <;> rfl
  | cons text rest ih =>
    -- As many indices remain as cells, so there is one for this cell.
    have more : 0 < c.remaining := enough ▸ Nat.succ_pos _
    have first : next c = .ok c.next? := next_eq (ready 0)
    rw [Cursor.next?_of_remaining more] at first
    have indices : c.take (rest.length + 1) = c.current :: c.call.2.take rest.length := by
      rw [Cursor.take, Cursor.next?_of_remaining more]
    rw [List.length_cons, indices] at long
    have current : outer ≤ c.current.length := long _ List.mem_cons_self
    have fewer : rest.length = c.call.2.remaining := by
      rw [Cursor.call_of_remaining more]
      exact Nat.eq_sub_of_add_eq enough
    have others := ih (fun k => ready (k + 1)) fewer
      (fun index member => long index (List.mem_cons_of_mem _ member))
      (some c.current) (fun p same => Option.mem_some.mp same ▸ current)
    rw [walk, first, ok_bind, List.length_cons, indices, List.zip_cons_cons]
    cases previous with
    | none =>
      simp only [Option.elim_none, ok_bind, others, Grid.walk]
      rfl
    | some p =>
      have between := regroup_eq (long' p rfl) current
      simp only [Option.elim_some, between, ok_bind, others, Grid.walkFrom]
      rfl

end Checked

open Checked

/-! ### Grids made from machine numbers -/

/-- A grid made from cells that a list can hold, from lengths whose products from the first on
are counts, and from bounds that are signed numbers. -/
inductive Made : Grid α → Prop where
  | vector {cells : List α} (few : (cells.length : Int) ≤ greatestIndex) : Made (vector cells)
  | ofCells {lengths : List Nat} {cells : List α} {g : Grid α}
    (fits : ∀ k, volume (lengths.take k) ≤ greatestSize)
    (few : (cells.length : Int) ≤ greatestIndex) : ofCells lengths cells = .ok g → Made g
  | withLowerBounds {g g' : Grid α} {bounds : List Int}
    (words : ∀ bound ∈ bounds, leastIndex ≤ bound ∧ bound ≤ greatestIndex) :
    Made g → g.withLowerBounds bounds = .ok g' → Made g'

theorem volume_le_of_fits (fits : ∀ k, volume (lengths.take k) ≤ greatestSize) :
    volume lengths ≤ greatestSize := by
  have whole := fits lengths.length
  rwa [List.take_length] at whole

theorem Made.built {g : Grid α} (made : Made g) : Built g := by
  induction made with
  | vector few => exact .vector few
  | ofCells _ few made => exact .ofCells few made
  | withLowerBounds words _ moved built => exact .withLowerBounds words built moved

theorem Made.products {g : Grid α} (made : Made g) (k : Nat) :
    volume (g.lengths.take k) ≤ greatestSize := by
  induction made with
  | @vector cells few =>
    cases k with
    | zero =>
      rw [List.take_zero]
      decide
    | succ k =>
      have line : volume [cells.length] = cells.length := Nat.mul_one _
      rw [Grid.vector, List.take_succ_cons, List.take_nil, line]
      unfold greatestIndex at few
      unfold greatestSize
      omega
  | ofCells fits _ made =>
    obtain ⟨-, -, rfl⟩ := ofCells_eq_ok made
    exact fits k
  | withLowerBounds _ _ moved products =>
    obtain ⟨-, -, rfl⟩ := withLowerBounds_eq_ok moved
    exact products

theorem Made.shaped {g : Grid α} (made : Made g) : Shaped g :=
  made.built.shaped (volume_le_of_fits made.products)

/-! ### No faults -/

/-- Where a call counts up, there are cells; so the lengths are signed numbers like the bounds. -/
theorem Shaped.ready {g : Grid α} (shaped : Shaped g) (k : Nat) : Ready (g.cursor.after k) := by
  intro more
  have inside : k < g.size := by
    rw [Cursor.remaining_after] at more
    exact Nat.lt_of_sub_ne_zero more
  have filled : k < volume g.lengths := shaped.filled ▸ inside
  rw [shaped.after_cursor inside]
  refine ⟨shaped.ranged (Nat.zero_lt_of_lt filled), ?_⟩
  apply (mem_box shaped.bounded).mp
  exact List.mem_of_getElem? (getElem?_box shaped.bounded filled)

theorem Shaped.rank_pos {g : Grid α} (shaped : Shaped g) : 1 ≤ g.rank :=
  List.length_pos_iff.mpr shaped.ranked

theorem Shaped.checked_braces {g : Grid String} (shaped : Shaped g) :
    Checked.braces g = .ok g.braces := by
  have long : ∀ index ∈ g.indices, g.rank - 1 ≤ index.length := by
    intro index member
    rw [shaped.indices_eq_box, mem_box shaped.bounded] at member
    rw [member.1]
    exact Nat.sub_le _ _
  have walked := walk_eq shaped.ready rfl long none (fun p member => nomatch member)
  unfold Checked.braces braces
  split
  · rfl
  · split
    · rfl
    · rw [minus_eq shaped.rank_pos, ok_bind, walked, ok_bind]
      rfl

end ExprDisplay.Grid
