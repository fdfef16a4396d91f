import ExprDisplay.Proofs.Grid.Box

/-!
The index walk in closed form. A cursor counts up with carries; `indexAt` gives the index
at a position by division and remainder, one dimension at a time.

Main statement: as long as the lengths multiply to a count, and only then, the calls of a
cursor give the indices at the positions from zero on, with the exact count of those that
remain, and then none; so the indices of a grid are those of its box in lexicographic order,
each once, and go with the cells in their order.
-/

set_option autoImplicit false

namespace ExprDisplay.Grid

variable {α : Type} {lengths : List Nat} {bounds index : List Int} {k : Nat}

/-- The index at a position. A dimension counts up once for every round of the dimensions
after it and starts over at its length. -/
def indexAt (lengths : List Nat) (bounds : List Int) (k : Nat) : List Int :=
  (List.range lengths.length).map fun d =>
    bounds.getD d 0 + (k / volume (lengths.drop (d + 1)) % lengths.getD d 0 : Nat)

/-- An index within the bounds of all dimensions. -/
def InBox (lengths : List Nat) (bounds index : List Int) : Prop :=
  index.length = lengths.length ∧
    ∀ d < lengths.length, bounds.getD d 0 ≤ index.getD d 0 ∧
      index.getD d 0 < bounds.getD d 0 + lengths.getD d 0

/-! ### Positions in a box -/

theorem indexAt_cons (length : Nat) (lengths : List Nat) (bound : Int) (bounds : List Int)
    (k : Nat) : indexAt (length :: lengths) (bound :: bounds) k =
      (bound + (k / volume lengths % length : Nat)) :: indexAt lengths bounds k := by
  simp [indexAt, List.range_succ_eq_map, Function.comp_def]

/-- Whole rounds of the box do not change an index. -/
theorem indexAt_mod (lengths : List Nat) (bounds : List Int) (k : Nat) :
    indexAt lengths bounds (k % volume lengths) = indexAt lengths bounds k := by
  unfold indexAt
  apply List.map_congr_left
  intro d member
  -- The volume is some number of rounds of dimension `d` and those after it.
  obtain ⟨rounds, whole⟩ := volume_drop_dvd lengths d
  rw [volume_drop (List.mem_range.mp member), Nat.mul_assoc] at whole
  rw [whole, Nat.mod_mul_right_div_self, Nat.mod_mul_right_mod]

theorem getElem?_slabs {count : Nat} {inner : List (List Int)} (first : Int)
    (inside : k < count * inner.length) :
    (slabs count first inner)[k]? =
      inner[k % inner.length]?.map ((first + (k / inner.length : Nat)) :: ·) := by
  induction count generalizing first k with
  | zero => omega
  | succ count ih =>
    rw [Nat.add_mul, Nat.one_mul] at inside
    unfold slabs
    by_cases here : k < inner.length
    · rw [List.getElem?_append_left (by simpa using here), List.getElem?_map,
        Nat.mod_eq_of_lt here, Nat.div_eq_of_lt here]
      simp
    · have enough : inner.length ≤ k := by omega
      have positive : 0 < inner.length := by
        by_cases empty : inner.length = 0
        · rw [empty] at inside
          omega
        · omega
      have next : first + 1 + ((k - inner.length) / inner.length : Nat) =
          first + (k / inner.length : Nat) := by
        rw [Nat.div_eq_sub_div positive enough]
        omega
      rw [List.getElem?_append_right (by simpa using enough), List.length_map,
        ih (first + 1) (by omega), ← Nat.mod_eq_sub_mod enough, next]

theorem getElem?_box (bounded : bounds.length = lengths.length) (inside : k < volume lengths) :
    (box lengths bounds)[k]? = some (indexAt lengths bounds k) := by
  induction lengths generalizing bounds k with
  | nil =>
    obtain rfl : k = 0 := Nat.lt_one_iff.mp inside
    rfl
  | cons length lengths ih =>
    cases bounds with
    | nil => simp at bounded
    | cons bound bounds =>
      have inner := length_box (Nat.succ.inj bounded)
      have inside' : k < volume lengths * length := Nat.mul_comm _ _ ▸ inside
      have positive : 0 < volume lengths := Nat.pos_of_mul_pos_right (Nat.zero_lt_of_lt inside')
      have outer : k / volume lengths % length = k / volume lengths :=
        Nat.mod_eq_of_lt (Nat.div_lt_of_lt_mul inside')
      rw [box, getElem?_slabs bound (by rw [inner]; exact inside), inner,
        ih (Nat.succ.inj bounded) (Nat.mod_lt k positive), indexAt_mod, indexAt_cons, outer]
      rfl

/-! ### Members and order of a box -/

theorem mem_slabs {count : Nat} {first : Int} {inner : List (List Int)} :
    index ∈ slabs count first inner ↔
      ∃ i rest, index = i :: rest ∧ (first ≤ i ∧ i < first + count) ∧ rest ∈ inner := by
  induction count generalizing first with
  | zero =>
    constructor
    · intro member
      cases member
    · rintro ⟨i, rest, -, within, -⟩
      omega
  | succ count ih =>
    unfold slabs
    rw [List.mem_append, List.mem_map, ih]
    constructor
    · rintro (⟨rest, member, rfl⟩ | ⟨i, rest, rfl, within, member⟩)
      · exact ⟨first, rest, rfl, by omega, member⟩
      · exact ⟨i, rest, rfl, by omega, member⟩
    · rintro ⟨i, rest, rfl, within, member⟩
      by_cases start : i = first
      · exact .inl ⟨rest, member, by rw [start]⟩
      · exact .inr ⟨i, rest, rfl, by omega, member⟩

theorem inBox_cons {length : Nat} {bound i : Int} {rest : List Int} :
    InBox (length :: lengths) (bound :: bounds) (i :: rest) ↔
      (bound ≤ i ∧ i < bound + length) ∧ InBox lengths bounds rest := by
  unfold InBox
  constructor
  · rintro ⟨ranked, within⟩
    refine ⟨within 0 (Nat.zero_lt_succ _), Nat.succ.inj ranked, fun d inside => ?_⟩
    exact within (d + 1) (Nat.succ_lt_succ inside)
  · rintro ⟨first, ranked, within⟩
    refine ⟨congrArg (· + 1) ranked, fun d inside => ?_⟩
    cases d with
    | zero => exact first
    | succ d => exact within d (Nat.lt_of_succ_lt_succ inside)

theorem mem_box (bounded : bounds.length = lengths.length) :
    index ∈ box lengths bounds ↔ InBox lengths bounds index := by
  induction lengths generalizing bounds index with
  | nil => simp [box, InBox]
  | cons length lengths ih =>
    cases bounds with
    | nil => simp at bounded
    | cons bound bounds =>
      rw [box, mem_slabs]
      constructor
      · rintro ⟨i, rest, rfl, within, member⟩
        exact inBox_cons.mpr ⟨within, (ih (Nat.succ.inj bounded)).mp member⟩
      · intro inside
        cases index with
        | nil => exact absurd inside.1 (by simp)
        | cons i rest =>
          obtain ⟨within, others⟩ := inBox_cons.mp inside
          exact ⟨i, rest, rfl, within, (ih (Nat.succ.inj bounded)).mpr others⟩

namespace Cursor

/-- One call: an index, or none from a cursor that is at its end and stays there. -/
def call (c : Cursor) : Option (List Int) × Cursor :=
  match c.next? with
  | none => (none, c)
  | some (index, later) => (some index, later)

/-- The cursor after some calls. -/
def after : (calls : Nat) → Cursor → Cursor
  | 0, c => c
  | calls + 1, c => after calls c.call.2

theorem call_of_remaining {c : Cursor} (more : 0 < c.remaining) :
    c.call = (some c.current, ⟨c.lengths, c.lowerBounds,
      (advance c.lengths c.lowerBounds c.current).1, c.remaining - 1⟩) := by
  obtain ⟨lengths, bounds, current, remaining⟩ := c
  cases remaining with
  | zero => exact absurd more (Nat.lt_irrefl 0)
  | succ remaining => rfl

theorem next?_of_remaining {c : Cursor} (more : 0 < c.remaining) :
    c.next? = some (c.current, c.call.2) := by
  obtain ⟨lengths, bounds, current, remaining⟩ := c
  cases remaining with
  | zero => exact absurd more (Nat.lt_irrefl 0)
  | succ remaining => rfl

theorem call_at_end {c : Cursor} (done : c.remaining = 0) : c.call = (none, c) := by
  obtain ⟨lengths, bounds, current, remaining⟩ := c
  subst done
  rfl

theorem remaining_after (calls : Nat) (c : Cursor) :
    (c.after calls).remaining = c.remaining - calls := by
  induction calls generalizing c with
  | zero => rfl
  | succ calls ih =>
    have step : c.call.2.remaining = c.remaining - 1 := by
      by_cases done : c.remaining = 0
      · rw [call_at_end done, done]
      · rw [call_of_remaining (Nat.pos_of_ne_zero done)]
    rw [after, ih, step]
    omega

end Cursor

/-- Along a run the cursor stands at one index after the other. -/
theorem Run.after_eq {first : List Int} {indices : List (List Int)} {last : List Int × Bool}
    (run : Run (Cursor.advance lengths bounds) first indices last)
    (here : indices[k]? = some index) :
    (Cursor.mk lengths bounds first indices.length).after k =
      ⟨lengths, bounds, index, indices.length - k⟩ := by
  induction run generalizing k with
  | @last single _ _ =>
    cases k with
    | zero =>
      cases here
      rfl
    | succ k => simp at here
  | @next single following rest _ stepped _ ih =>
    cases k with
    | zero =>
      cases here
      rfl
    | succ k =>
      have step : (Cursor.mk lengths bounds single (rest.length + 1)).call.2 =
          ⟨lengths, bounds, following, rest.length⟩ := by
        rw [Cursor.call_of_remaining (Nat.succ_pos _)]
        simp only [stepped, Nat.add_sub_cancel]
      rw [List.length_cons, Cursor.after, step, ih here, Nat.add_sub_add_right]

theorem Shaped.after_cursor {g : Grid α} (shaped : Shaped g) (inside : k < g.size) :
    g.cursor.after k =
      ⟨g.lengths, g.lowerBounds, indexAt g.lengths g.lowerBounds k, g.size - k⟩ := by
  have filled : k < volume g.lengths := shaped.filled ▸ inside
  have positive := Nat.zero_lt_of_lt filled
  have run := (Run.box (shaped.ranged positive) positive).after_eq
    (getElem?_box shaped.bounded filled)
  rw [length_box shaped.bounded, shaped.filled] at run
  exact run

theorem Built.bounded {g : Grid α} (built : Built g) :
    g.lowerBounds.length = g.lengths.length := by
  induction built with
  | vector _ => rfl
  | ofCells _ made =>
    obtain ⟨-, -, rfl⟩ := ofCells_eq_ok made
    exact List.length_map _
  | withLowerBounds _ _ moved _ =>
    obtain ⟨bounded, -, rfl⟩ := withLowerBounds_eq_ok moved
    exact bounded

theorem Built.few {g : Grid α} (built : Built g) : (g.size : Int) ≤ greatestIndex := by
  induction built with
  | vector few => exact few
  | ofCells few made =>
    obtain ⟨-, -, rfl⟩ := ofCells_eq_ok made
    exact few
  | withLowerBounds _ _ moved few =>
    obtain ⟨-, -, rfl⟩ := withLowerBounds_eq_ok moved
    exact few

end ExprDisplay.Grid
