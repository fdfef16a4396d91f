import ExprDisplay.Proofs.Grid.Checked

/-!
Which shapes are refused, and why. A grid is refused for having no dimension before its
cells are counted, and new bounds for their number before any dimension is looked at; of
the dimensions that end too far, the first one is reported. A machine comes to the same
answers with a product that may overflow and sums that it checks one by one.

Main statement: each error arises under exactly one condition and everything else
succeeds; the bounds a grid had before make no difference to the answer, so of a chain of
moves only the last one counts.
-/

set_option autoImplicit false

namespace ExprDisplay.Grid

variable {α : Type} {lengths : List Nat} {bounds : List Int} {g g' : Grid α}

/-- Dimension `d` is longer than the greatest index or would end past it. -/
def EndsPast (lengths : List Nat) (bounds : List Int) (d : Nat) : Prop :=
  greatestIndex < lengths.getD d 0 ∨ greatestIndex < bounds.getD d 0 + lengths.getD d 0

/-! ### Making a grid -/

theorem ofCells_eq_error_iff (counted : volume lengths ≤ greatestSize) {cells : List α}
    {e : ShapeError} : ofCells lengths cells = .error e ↔
      (lengths = [] ∧ e = .zeroRank) ∨
      (lengths ≠ [] ∧ volume lengths ≠ cells.length ∧
        e = .cellCount (volume lengths) cells.length) := by
  unfold ofCells
  rw [cellCount_eq counted]
  by_cases flat : lengths = []
  · simp [flat, eq_comm]
  · by_cases filled : volume lengths = cells.length
    · simp [flat, filled]
    · simp only [List.isEmpty_iff, flat, if_false, ne_eq, filled, not_false_eq_true, if_true,
        Except.error.injEq, false_and, false_or, true_and]
      exact eq_comm

theorem ofCells_eq_ok_iff (counted : volume lengths ≤ greatestSize) {cells : List α} :
    ofCells lengths cells = .ok g ↔
      lengths ≠ [] ∧ volume lengths = cells.length ∧
        g = ⟨lengths, List.replicate lengths.length 0, cells⟩ := by
  constructor
  · intro made
    obtain ⟨ranked, filled, rfl⟩ := ofCells_eq_ok made
    rw [cellCount_eq counted] at filled
    exact ⟨ranked, filled, by rw [List.map_const']⟩
  · rintro ⟨ranked, filled, rfl⟩
    have some : ¬ lengths.isEmpty = true := mt List.isEmpty_iff.mp ranked
    unfold ofCells
    rw [cellCount_eq counted, if_neg some, if_neg (not_not_intro filled), List.map_const']

/-! ### The first dimension that ends too far -/

/-- There is nothing to end past the last dimension. -/
theorem EndsPast.lt_length {d : Nat} (past : EndsPast lengths bounds d)
    (ranked : bounds.length = lengths.length) : d < lengths.length := by
  rcases Nat.lt_or_ge d lengths.length with inside | outside
  · exact inside
  · have noLength : lengths.getD d 0 = 0 := by
      rw [List.getD_eq_getElem?_getD, List.getElem?_eq_none outside, Option.getD_none]
    have noBound : bounds.getD d 0 = 0 := by
      rw [List.getD_eq_getElem?_getD, List.getElem?_eq_none (ranked ▸ outside), Option.getD_none]
    unfold EndsPast greatestIndex at past
    rw [noLength, noBound] at past
    omega

theorem endsTooFar_getD_iff {d : Nat} :
    endsTooFar (bounds.getD d 0) (lengths.getD d 0) = true ↔ EndsPast lengths bounds d := by
  simp only [endsTooFar, EndsPast, Bool.or_eq_true, decide_eq_true_eq]

theorem getElem_zip_getD {d : Nat} (inside : d < (bounds.zip lengths).length) :
    (bounds.zip lengths)[d] = (bounds.getD d 0, lengths.getD d 0) := by
  rw [List.getElem_zip, List.getElem_eq_getD 0, List.getElem_eq_getD 0]

theorem overflow?_eq_some_iff (ranked : bounds.length = lengths.length) {d : Nat} :
    overflow? bounds lengths = some d ↔
      EndsPast lengths bounds d ∧ ∀ earlier < d, ¬ EndsPast lengths bounds earlier := by
  have zipped : (bounds.zip lengths).length = lengths.length := by
    rw [List.length_zip, ranked, Nat.min_self]
  unfold overflow?
  rw [List.findIdx?_eq_some_iff_getElem]
  constructor
  · rintro ⟨inside, past, before⟩
    rw [getElem_zip_getD inside] at past
    refine ⟨endsTooFar_getD_iff.mp past, fun earlier less => ?_⟩
    have within := before earlier less
    rwa [getElem_zip_getD (Nat.lt_trans less inside), endsTooFar_getD_iff] at within
  · rintro ⟨past, before⟩
    have inside : d < (bounds.zip lengths).length := zipped ▸ past.lt_length ranked
    refine ⟨inside, ?_, fun earlier less => ?_⟩
    · rw [getElem_zip_getD inside]
      exact endsTooFar_getD_iff.mpr past
    · rw [getElem_zip_getD (Nat.lt_trans less inside), endsTooFar_getD_iff]
      exact before earlier less

theorem overflow?_eq_none_iff (ranked : bounds.length = lengths.length) :
    overflow? bounds lengths = none ↔ ∀ d, ¬ EndsPast lengths bounds d := by
  constructor
  · intro within d past
    have inside : d < (bounds.zip lengths).length := by
      have := past.lt_length ranked
      rw [List.length_zip]
      omega
    have fits := List.findIdx?_eq_none_iff.mp within _ (List.getElem_mem inside)
    rw [getElem_zip_getD inside] at fits
    exact absurd (endsTooFar_getD_iff.mpr past) (Bool.eq_false_iff.mp fits)
  · intro within
    cases found : overflow? bounds lengths with
    | none => rfl
    | some d => exact absurd ((overflow?_eq_some_iff ranked).mp found).1 (within d)

/-! ### Moving a grid -/

theorem withLowerBounds_eq_error_iff {e : ShapeError} :
    g.withLowerBounds bounds = .error e ↔
      (bounds.length ≠ g.rank ∧ e = .boundsRank g.rank bounds.length) ∨
      (bounds.length = g.rank ∧ ∃ d, EndsPast g.lengths bounds d ∧
        (∀ earlier < d, ¬ EndsPast g.lengths bounds earlier) ∧ e = .boundsOverflow d) := by
  unfold withLowerBounds rank
  by_cases ranked : bounds.length = g.lengths.length
  · simp only [ranked, ne_eq, not_true_eq_false, if_false, false_and, false_or, true_and]
    cases found : overflow? bounds g.lengths with
    | none =>
      have within := (overflow?_eq_none_iff ranked).mp found
      simp [within]
    | some d =>
      have first := (overflow?_eq_some_iff ranked).mp found
      simp only [Except.error.injEq]
      constructor
      · rintro rfl
        exact ⟨d, first.1, first.2, rfl⟩
      · rintro ⟨d', past, before, rfl⟩
        -- Both are the first one that ends too far.
        have same := (overflow?_eq_some_iff ranked).mpr ⟨past, before⟩
        rw [found] at same
        rw [Option.some.inj same]
  · simp [ranked, eq_comm]

theorem withLowerBounds_eq_ok_iff :
    g.withLowerBounds bounds = .ok g' ↔
      bounds.length = g.rank ∧ (∀ d, ¬ EndsPast g.lengths bounds d) ∧
        g' = { g with lowerBounds := bounds } := by
  unfold withLowerBounds rank
  by_cases ranked : bounds.length = g.lengths.length
  · simp only [ranked, ne_eq, not_true_eq_false, if_false, true_and]
    rw [← overflow?_eq_none_iff ranked]
    cases overflow? bounds g.lengths with
    | none => simp [eq_comm]
    | some d => simp
  · simp [ranked]

/-- The answer depends on the lengths, and the grid that is made on the cells as well. -/
theorem withLowerBounds_congr (lengths : g'.lengths = g.lengths) (cells : g'.cells = g.cells)
    (bounds : List Int) : g'.withLowerBounds bounds = g.withLowerBounds bounds := by
  unfold withLowerBounds
  rw [lengths, cells]

theorem bind_success {ε β γ : Type} {step : Except ε β} {next : β → Except ε γ} {c : γ}
    (success : (step >>= next) = .ok c) : ∃ b, step = .ok b ∧ next b = .ok c := by
  cases step with
  | error e => cases success
  | ok b => exact ⟨b, rfl, success⟩

/-- What a chain of moves keeps, by induction on the chain. -/
theorem foldlM_withLowerBounds {chain : List (List Int)}
    (moved : chain.foldlM withLowerBounds g = .ok g') :
    g'.lengths = g.lengths ∧ g'.cells = g.cells := by
  induction chain generalizing g with
  | nil =>
    obtain rfl := Except.ok.inj moved
    exact ⟨rfl, rfl⟩
  | cons bounds chain ih =>
    rw [List.foldlM_cons] at moved
    obtain ⟨middle, first, onward⟩ := bind_success moved
    obtain ⟨-, -, rfl⟩ := withLowerBounds_eq_ok first
    have kept := ih onward
    exact kept

/-! ### The same on a machine -/

namespace Checked

/-- Where a dimension ends: its length as a signed number, added to its bound. -/
def stop (bound : Int) (length : Nat) : Checked Int := do
  signed (bound + (← signed length))

/-- Goes through the dimensions from `d` on up to the first one without an end. -/
def overflowFrom : (d : Nat) → List (Int × Nat) → Option Nat
  | _, [] => none
  | d, (bound, length) :: rest =>
    match stop bound length with
    | .ok _ => overflowFrom (d + 1) rest
    | .error _ => some d

/-- The cells are counted against a product of counts, which may overflow. -/
def ofCells (lengths : List Nat) (cells : List α) : Checked (Except ShapeError (Grid α)) :=
  if lengths.isEmpty then .ok (.error .zeroRank)
  else do
    let expected ← product lengths
    if expected ≠ cells.length then return .error (.cellCount expected cells.length)
    else return .ok ⟨lengths, List.replicate lengths.length 0, cells⟩

def withLowerBounds (g : Grid α) (bounds : List Int) : Except ShapeError (Grid α) :=
  if bounds.length ≠ g.rank then .error (.boundsRank g.rank bounds.length)
  else match overflowFrom 0 (bounds.zip g.lengths) with
    | some dimension => .error (.boundsOverflow dimension)
    | none => .ok { g with lowerBounds := bounds }

theorem ofCells_eq (fits : ∀ k, volume (lengths.take k) ≤ greatestSize) (cells : List α) :
    ofCells lengths cells = .ok (Grid.ofCells lengths cells) := by
  unfold ofCells Grid.ofCells
  rw [product_eq fits, ok_bind, cellCount_eq (volume_le_of_fits fits), List.map_const']
  split
  · rfl
  · split <;> rfl

/-- A sum with a length can leave the signed numbers at the top only. -/
theorem stop_eq {bound : Int} (word : leastIndex ≤ bound) (length : Nat) :
    stop bound length =
      if endsTooFar bound length then .error .overflow else .ok (bound + length) := by
  have unsigned : leastIndex ≤ (length : Int) := by
    unfold leastIndex
    omega
  have upward : leastIndex ≤ bound + length := by omega
  unfold stop endsTooFar
  simp only [Bool.or_eq_true, decide_eq_true_eq]
  by_cases long : greatestIndex < (length : Int)
  · have fault : signed length = .error .overflow := if_neg fun inside => by omega
    rw [fault, if_pos (.inl long)]
    rfl
  · rw [signed_eq unsigned (by omega), ok_bind]
    by_cases past : greatestIndex < bound + length
    · rw [if_pos (.inr past)]
      exact if_neg fun inside => by omega
    · have within : ¬ (greatestIndex < (length : Int) ∨ greatestIndex < bound + length) := by omega
      rw [if_neg within]
      exact signed_eq upward (by omega)

theorem overflowFrom_eq (d : Nat) {dimensions : List (Int × Nat)}
    (words : ∀ dimension ∈ dimensions, leastIndex ≤ dimension.1) :
    overflowFrom d dimensions =
      (dimensions.findIdx? fun (bound, length) => endsTooFar bound length).map (· + d) := by
  induction dimensions generalizing d with
  | nil => rfl
  | cons dimension rest ih =>
    obtain ⟨bound, length⟩ := dimension
    rw [List.forall_mem_cons] at words
    rw [overflowFrom, stop_eq words.1, List.findIdx?_cons]
    by_cases past : endsTooFar bound length = true
    · simp [past]
    · have onward : (fun i => i + (d + 1)) = (fun i => i + d) ∘ (fun i => i + 1) := by
        funext i
        simp only [Function.comp_apply]
        omega
      simp only [if_neg past]
      rw [ih (d + 1) words.2, Option.map_map, onward]

theorem withLowerBounds_eq (words : ∀ bound ∈ bounds, leastIndex ≤ bound) (g : Grid α) :
    withLowerBounds g bounds = g.withLowerBounds bounds := by
  have starts : ∀ dimension ∈ bounds.zip g.lengths, leastIndex ≤ dimension.1 :=
    fun dimension member => words _ (List.of_mem_zip member).1
  have first : overflowFrom 0 (bounds.zip g.lengths) = overflow? bounds g.lengths := by
    rw [overflowFrom_eq 0 starts, overflow?]
    simp
  unfold withLowerBounds Grid.withLowerBounds
  rw [first]
  rfl

end Checked

/-- Validation of cells and of bounds. Each error arises under one condition, in the order of
the conditions, and what meets none of them succeeds with the zero bounds or the new ones.
The bounds before do not matter, so a chain of moves is its last move. On counts and signed
numbers of a machine the answers are the same. -/
theorem validation_exact (lengths : List Nat) (cells : List α)
    (fits : ∀ k, volume (lengths.take k) ≤ greatestSize) :
    Checked.ofCells lengths cells = .ok (ofCells lengths cells) ∧
    (∀ e, ofCells lengths cells = .error e ↔
      (lengths = [] ∧ e = .zeroRank) ∨
      (lengths ≠ [] ∧ volume lengths ≠ cells.length ∧
        e = .cellCount (volume lengths) cells.length)) ∧
    (∀ g, ofCells lengths cells = .ok g ↔ lengths ≠ [] ∧ volume lengths = cells.length ∧
      g = ⟨lengths, List.replicate lengths.length 0, cells⟩) ∧
    ∀ (g : Grid α) (bounds : List Int),
      ((∀ bound ∈ bounds, leastIndex ≤ bound ∧ bound ≤ greatestIndex) →
        Checked.withLowerBounds g bounds = g.withLowerBounds bounds) ∧
      (∀ e, g.withLowerBounds bounds = .error e ↔
        (bounds.length ≠ g.rank ∧ e = .boundsRank g.rank bounds.length) ∨
        (bounds.length = g.rank ∧ ∃ d, EndsPast g.lengths bounds d ∧
          (∀ earlier < d, ¬ EndsPast g.lengths bounds earlier) ∧ e = .boundsOverflow d)) ∧
      (∀ g', g.withLowerBounds bounds = .ok g' ↔
        bounds.length = g.rank ∧ (∀ d, ¬ EndsPast g.lengths bounds d) ∧
          g' = { g with lowerBounds := bounds }) ∧
      (∀ before, Grid.withLowerBounds { g with lowerBounds := before } bounds =
        g.withLowerBounds bounds) ∧
      ∀ chain g', (chain ++ [bounds]).foldlM withLowerBounds g = .ok g' →
        g.withLowerBounds bounds = .ok g' := by
  have counted := volume_le_of_fits fits
  refine ⟨Checked.ofCells_eq fits cells, fun e => ofCells_eq_error_iff counted,
    fun g => ofCells_eq_ok_iff counted, fun g bounds => ?_⟩
  refine ⟨fun words => Checked.withLowerBounds_eq (fun bound member => (words bound member).1) g,
    fun e => withLowerBounds_eq_error_iff, fun g' => withLowerBounds_eq_ok_iff,
    fun before => withLowerBounds_congr rfl rfl bounds, fun chain g' moved => ?_⟩
  rw [List.foldlM_append] at moved
  obtain ⟨middle, earlier, last⟩ := bind_success moved
  obtain ⟨lengths, cells⟩ := foldlM_withLowerBounds earlier
  rw [← withLowerBounds_congr lengths cells bounds]
  simpa using last

/-- One cell in two dimensions. The second dimension cannot start at the greatest index, the
first one could start just before it, and a later move leaves no trace of that. -/
theorem validation_exact_cell :
    let g : Grid Nat := ⟨[1, 1], [0, 0], [7]⟩
    let moved : Grid Nat := ⟨[1, 1], [5, 5], [7]⟩
    (∀ k, volume ([1, 1].take k) ≤ greatestSize) ∧ ofCells [1, 1] [7] = .ok g ∧
      g.withLowerBounds [0, greatestIndex] = .error (.boundsOverflow 1) ∧
      [[greatestIndex - 1, leastIndex], [5, 5]].foldlM withLowerBounds g = .ok moved ∧
      g.withLowerBounds [5, 5] = .ok moved := by
  intro g moved
  have fits : ∀ k, volume ([1, 1].take k) ≤ greatestSize := by
    intro k
    rcases k with _ | _ | k
    · decide
    · decide
    · simp [volume, greatestSize]
  have chain : [[greatestIndex - 1, leastIndex], [5, 5]].foldlM withLowerBounds g = .ok moved := rfl
  obtain ⟨-, -, made, moves⟩ := validation_exact [1, 1] [7] fits
  have refused := (moves g [0, greatestIndex]).2.1 (.boundsOverflow 1)
  refine ⟨fits, (made g).mpr ⟨by decide, by decide, rfl⟩, refused.mpr (.inr ⟨rfl, 1, ?_, ?_, rfl⟩),
    chain, (moves g [5, 5]).2.2.2.2 [[greatestIndex - 1, leastIndex]] moved chain⟩
  · exact .inr (by decide)
  · intro earlier first
    obtain rfl : earlier = 0 := by omega
    rintro (long | past)
    · exact absurd long (by decide)
    · exact absurd past (by decide)

end ExprDisplay.Grid
