import ExprDisplay.Proofs.Node.Preorder

/-!
Positions in the order of a walk. Listed in pre-order, the positions of a tree are in
lexicographic order: a node comes before what is below it, and what is below a child before
what is below a later one.

Main statements: a tree's places are its positions, each once and in that order, with the
nodes that a walk visits. What comes between a position and one below it is below it as
well, and what comes between a node and its next sibling is below that node.
-/

set_option autoImplicit false

namespace ExprDisplay.Node

/-- A place below a node, seen from the parent of that node. -/
def under (i : Nat) (place : List Nat × Node) : List Nat × Node := (i :: place.1, place.2)

mutual

/-- The nodes of a tree in pre-order, each with its position. -/
def places : Node → List (List Nat × Node)
  | ⟨kind, label, literal, children⟩ =>
    ([], ⟨kind, label, literal, children⟩) :: forestPlaces 0 children

/-- The places in a forest whose first tree is child number `first`. -/
def forestPlaces : (first : Nat) → List Node → List (List Nat × Node)
  | _, [] => []
  | first, n :: ns => (places n).map (under first) ++ forestPlaces (first + 1) ns

end

/-- The positions of a tree in pre-order. -/
def positions (n : Node) : List (List Nat) := n.places.map Prod.fst

/-- The order of positions. -/
def Before (p q : List Nat) : Prop := List.Lex (· < ·) p q

theorem places_eq (n : Node) : n.places = ([], n) :: forestPlaces 0 n.children := by
  cases n
  rw [places]

/-! ### The places of a tree are its positions -/

theorem mem_forestPlaces {first : Nat} {ns : List Node} {place : List Nat × Node} :
    place ∈ forestPlaces first ns ↔
      ∃ i c, ns[i]? = some c ∧ ∃ inner ∈ c.places, place = under (first + i) inner := by
  induction ns generalizing first with
  | nil => simp [forestPlaces]
  | cons n ns ih =>
    rw [forestPlaces, List.mem_append, List.mem_map, ih]
    constructor
    · rintro (⟨inner, listed, rfl⟩ | ⟨i, c, child, inner, listed, rfl⟩)
      · exact ⟨0, n, rfl, inner, listed, rfl⟩
      · exact ⟨i + 1, c, child, inner, listed, by rw [Nat.add_right_comm, Nat.add_assoc]⟩
    · rintro ⟨i, c, child, inner, listed, rfl⟩
      cases i with
      | zero =>
        obtain rfl := Option.some.inj child
        exact .inl ⟨inner, listed, rfl⟩
      | succ i =>
        exact .inr ⟨i, c, child, inner, listed, by rw [Nat.add_right_comm, Nat.add_assoc]⟩

/-- A place below the root is one below a child. -/
theorem mem_forestPlaces_children {n : Node} {path : List Nat} {m : Node} :
    (path, m) ∈ forestPlaces 0 n.children ↔
      ∃ i rest c, path = i :: rest ∧ n.children[i]? = some c ∧ (rest, m) ∈ c.places := by
  rw [mem_forestPlaces]
  constructor
  · rintro ⟨i, c, child, ⟨rest, m'⟩, listed, same⟩
    rw [Nat.zero_add] at same
    obtain ⟨rfl, rfl⟩ := Prod.mk.inj same
    exact ⟨i, rest, c, rfl, child, listed⟩
  · rintro ⟨i, rest, c, rfl, child, listed⟩
    exact ⟨i, c, child, (rest, m), listed, by rw [Nat.zero_add]; rfl⟩

theorem mem_places {n m : Node} {path : List Nat} :
    (path, m) ∈ n.places ↔ n.subtree? path = some m := by
  induction n using child_induction generalizing path with
  | step n ih =>
    rw [places_eq, List.mem_cons, mem_forestPlaces_children]
    cases path with
    | nil => simp [eq_comm]
    | cons i path =>
      rw [subtree?_cons]
      constructor
      · rintro (root | ⟨_, _, c, same, child, listed⟩)
        · cases root
        · obtain ⟨rfl, rfl⟩ := List.cons.inj same
          exact ⟨c, child, (ih c (List.mem_of_getElem? child)).mp listed⟩
      · rintro ⟨c, child, inner⟩
        exact .inr ⟨i, path, c, rfl, child, (ih c (List.mem_of_getElem? child)).mpr inner⟩

theorem mem_positions {n : Node} {path : List Nat} :
    path ∈ n.positions ↔ (n.subtree? path).isSome := by
  simp [positions, mem_places, Option.isSome_iff_exists]

/-- What is above a position is a position. -/
theorem mem_positions_of_append {n : Node} {path rest : List Nat}
    (listed : path ++ rest ∈ n.positions) : path ∈ n.positions := by
  rw [mem_positions, Option.isSome_iff_exists] at listed ⊢
  obtain ⟨m, here⟩ := listed
  obtain ⟨c, above, -⟩ := subtree?_append.mp here
  exact ⟨c, above⟩

/-- What stands beside a position, before it, is a position. -/
theorem mem_positions_of_le {n : Node} {path : List Nat} {i j : Nat} (before : i ≤ j)
    (listed : path ++ [j] ∈ n.positions) : path ++ [i] ∈ n.positions := by
  rw [mem_positions, Option.isSome_iff_exists] at listed ⊢
  obtain ⟨m, here⟩ := listed
  obtain ⟨c, above, last⟩ := subtree?_append.mp here
  obtain ⟨d, child, -⟩ := subtree?_cons.mp last
  have inside : i < c.children.length :=
    Nat.lt_of_le_of_lt before (List.getElem?_eq_some_iff.mp child).1
  refine ⟨c.children[i], subtree?_append.mpr ⟨c, above, subtree?_cons.mpr ⟨_, ?_, rfl⟩⟩⟩
  exact List.getElem?_eq_getElem inside

mutual

theorem map_snd_places : (n : Node) → n.places.map Prod.snd = n.preorder
  | ⟨kind, label, literal, children⟩ => by
    rw [places, preorder, List.map_cons, map_snd_forestPlaces 0 children]

theorem map_snd_forestPlaces (first : Nat) :
    (ns : List Node) → (forestPlaces first ns).map Prod.snd = forestPreorder ns
  | [] => rfl
  | n :: ns => by
    have shifted : Prod.snd ∘ under first = Prod.snd := rfl
    rw [forestPlaces, forestPreorder, List.map_append, List.map_map, shifted, map_snd_places n,
      map_snd_forestPlaces (first + 1) ns]

end

/-! ### Their order -/

theorem pairwise_forestPlaces {first : Nat} {ns : List Node}
    (each : ∀ n ∈ ns, n.positions.Pairwise Before) :
    ((forestPlaces first ns).map Prod.fst).Pairwise Before := by
  induction ns generalizing first with
  | nil => exact .nil
  | cons n ns ih =>
    rw [List.forall_mem_cons] at each
    have shifted : Prod.fst ∘ under first = (first :: ·) ∘ Prod.fst := rfl
    rw [forestPlaces, List.map_append, List.map_map, shifted, ← List.map_map, List.pairwise_append]
    refine ⟨?_, ih each.2, ?_⟩
    · exact List.pairwise_map.mpr (each.1.imp .cons)
    · intro p inFirst q inOthers
      obtain ⟨rest, -, rfl⟩ := List.mem_map.mp inFirst
      obtain ⟨place, listed, rfl⟩ := List.mem_map.mp inOthers
      obtain ⟨i, c, -, inner, -, rfl⟩ := mem_forestPlaces.mp listed
      have later : first < first + 1 + i := by omega
      exact .rel later

/-- Positions are listed in their order, and so each only once. -/
theorem pairwise_positions (n : Node) : n.positions.Pairwise Before := by
  induction n using child_induction with
  | step n ih =>
    rw [positions, places_eq, List.map_cons, List.pairwise_cons]
    refine ⟨?_, pairwise_forestPlaces ih⟩
    intro path below
    obtain ⟨place, listed, rfl⟩ := List.mem_map.mp below
    obtain ⟨i, c, -, inner, -, rfl⟩ := mem_forestPlaces.mp listed
    exact .nil

theorem Before.asymm {p q : List Nat} (before : Before p q) : ¬ Before q p :=
  List.lex_asymm (fun less more => Nat.lt_asymm less more) before

theorem Before.append {p : List Nat} (x : List Nat) {q : List Nat} (before : Before p q) :
    Before (x ++ p) (x ++ q) := by
  induction x with
  | nil => exact before
  | cons i x ih => exact .cons ih

theorem before_append_cons (x : List Nat) (i : Nat) (y : List Nat) : Before x (x ++ i :: y) := by
  simpa using Before.append x (.nil : Before [] (i :: y))

theorem Before.of_append {x p q : List Nat} (before : Before (x ++ p) (x ++ q)) : Before p q := by
  induction x with
  | nil => exact before
  | cons i x ih =>
    cases before with
    | rel less => exact absurd less (Nat.lt_irrefl i)
    | cons inner => exact ih inner

/-- Between two positions below a child there are only positions below that child. -/
theorem Before.cons_between {i : Nat} {x y p : List Nat} (start : Before (i :: x) p)
    (stop : Before p (i :: y)) : ∃ z, p = i :: z ∧ Before x z ∧ Before z y := by
  cases start with
  | rel less =>
    cases stop with
    | rel more => exact absurd less (Nat.lt_asymm more)
    | cons inner => exact absurd less (Nat.lt_irrefl i)
  | cons start =>
    cases stop with
    | rel more => exact absurd more (Nat.lt_irrefl i)
    | cons stop => exact ⟨_, rfl, start, stop⟩

/-- What comes between a position and one below it is below it as well. -/
theorem eq_append_of_between {x y p : List Nat} (start : p = x ∨ Before x p)
    (stop : Before p (x ++ y)) : ∃ z, p = x ++ z := by
  induction x generalizing p with
  | nil => exact ⟨p, rfl⟩
  | cons i x ih =>
    rcases start with rfl | start
    · exact ⟨[], by rw [List.append_nil]⟩
    · obtain ⟨p, rfl, start, stop⟩ := start.cons_between stop
      obtain ⟨z, rfl⟩ := ih (.inr start) stop
      exact ⟨z, rfl⟩

/-- What comes between something at or below a node and the next sibling of that node is
below the node, too. -/
theorem eq_append_cons_of_between {x rest q : List Nat} {i : Nat}
    (start : Before (x ++ i :: rest) q) (stop : Before q (x ++ [i + 1])) :
    ∃ z, q = x ++ i :: z := by
  induction x generalizing q with
  | nil =>
    cases start with
    | cons inner => exact ⟨_, rfl⟩
    | rel less =>
      cases stop with
      | rel more => exact absurd less (Nat.not_lt.mpr (Nat.le_of_lt_succ more))
      | cons none => exact absurd none List.not_lex_nil
  | cons j x ih =>
    obtain ⟨q, rfl, start, stop⟩ := Before.cons_between start stop
    obtain ⟨z, rfl⟩ := ih start stop
    exact ⟨z, rfl⟩

/-! ### Neighbours in the list -/

variable {n : Node} {i j : Nat} {p q r : List Nat}

theorem before_of_lt (here : n.positions[i]? = some p) (there : n.positions[j]? = some q)
    (less : i < j) : Before p q := by
  obtain ⟨inside, rfl⟩ := List.getElem?_eq_some_iff.mp here
  obtain ⟨inside', rfl⟩ := List.getElem?_eq_some_iff.mp there
  exact List.pairwise_iff_getElem.mp (pairwise_positions n) i j inside inside' less

theorem lt_of_before (here : n.positions[i]? = some p) (there : n.positions[j]? = some q)
    (before : Before p q) : i < j := by
  rcases Nat.lt_trichotomy i j with less | rfl | more
  · exact less
  · obtain rfl : p = q := Option.some.inj (here.symm.trans there)
    exact absurd before before.asymm
  · exact absurd before (before_of_lt there here more).asymm

/-- Before something that comes later there is a next position. -/
theorem exists_next (here : n.positions[i]? = some p) (later : r ∈ n.positions)
    (before : Before p r) :
    ∃ q, n.positions[i + 1]? = some q ∧ Before p q ∧ (q = r ∨ Before q r) := by
  obtain ⟨j, there⟩ := List.getElem?_of_mem later
  have less := lt_of_before here there before
  have inside : i + 1 < n.positions.length :=
    Nat.lt_of_le_of_lt less (List.getElem?_eq_some_iff.mp there).1
  have next : n.positions[i + 1]? = some n.positions[i + 1] := List.getElem?_eq_getElem inside
  refine ⟨_, next, before_of_lt here next (Nat.lt_succ_self i), ?_⟩
  rcases Nat.eq_or_lt_of_le less with rfl | further
  · exact .inl (Option.some.inj (next.symm.trans there))
  · exact .inr (before_of_lt next there further)

/-- After something that comes earlier there is a previous position. -/
theorem exists_previous (here : n.positions[i]? = some q) (earlier : r ∈ n.positions)
    (before : Before r q) :
    ∃ k p, i = k + 1 ∧ n.positions[k]? = some p ∧ Before p q ∧ (p = r ∨ Before r p) := by
  obtain ⟨j, there⟩ := List.getElem?_of_mem earlier
  have less := lt_of_before there here before
  obtain ⟨k, rfl⟩ : ∃ k, i = k + 1 := ⟨i - 1, by omega⟩
  have inside : k < n.positions.length :=
    Nat.lt_of_succ_lt (List.getElem?_eq_some_iff.mp here).1
  have previous : n.positions[k]? = some n.positions[k] := List.getElem?_eq_getElem inside
  refine ⟨k, _, rfl, previous, before_of_lt previous here (Nat.lt_succ_self k), ?_⟩
  rcases Nat.eq_or_lt_of_le (Nat.le_of_lt_succ less) with rfl | further
  · exact .inl (Option.some.inj (previous.symm.trans there))
  · exact .inr (before_of_lt there previous further)

end ExprDisplay.Node
