import ExprDisplay.Node.Basic

/-!
Positions in a display tree. A position is the list of child indices that lead down
to it, so its length is its display depth. Two trees that look alike at every
position are equal, and the depth of a tree bounds the length of its positions.
-/

set_option autoImplicit false

namespace ExprDisplay.Node

/-- The node at a position. -/
def subtree? : Node → List Nat → Option Node
  | n, [] => some n
  | n, i :: path => n.children[i]?.bind fun c => c.subtree? path

@[simp] theorem subtree?_nil (n : Node) : n.subtree? [] = some n := rfl

theorem subtree?_cons {n m : Node} {i : Nat} {path : List Nat} :
    n.subtree? (i :: path) = some m ↔
      ∃ c, n.children[i]? = some c ∧ c.subtree? path = some m := by
  simp [subtree?, Option.bind_eq_some_iff]

theorem subtree?_append {n m : Node} {path rest : List Nat} :
    n.subtree? (path ++ rest) = some m ↔
      ∃ c, n.subtree? path = some c ∧ c.subtree? rest = some m := by
  induction path generalizing n with
  | nil => simp
  | cons i path ih =>
    simp only [List.cons_append, subtree?_cons, ih]
    constructor
    · rintro ⟨c, child, d, inner, last⟩
      exact ⟨d, ⟨c, child, inner⟩, last⟩
    · rintro ⟨d, ⟨c, child, inner⟩, last⟩
      exact ⟨c, child, d, inner, last⟩

/-- A leaf has no position but its own. -/
theorem eq_nil_of_leaf {n m : Node} {path : List Nat} (leaf : n.children = [])
    (here : n.subtree? path = some m) : path = [] ∧ m = n := by
  cases path with
  | nil => exact ⟨rfl, (Option.some.inj here).symm⟩
  | cons i path =>
    obtain ⟨c, child, -⟩ := subtree?_cons.mp here
    simp [leaf] at child

theorem sizeOf_lt_of_mem_children {n c : Node} (child : c ∈ n.children) :
    sizeOf c < sizeOf n := by
  obtain ⟨kind, label, literal, children⟩ := n
  have inner : sizeOf c < sizeOf children := List.sizeOf_lt_of_mem child
  rw [mk.sizeOf_spec]
  omega

/-- Induction over a tree, from the children to the node. -/
theorem child_induction {P : Node → Prop} (step : ∀ n, (∀ c ∈ n.children, P c) → P n)
    (n : Node) : P n :=
  step n fun c child =>
    have := sizeOf_lt_of_mem_children child
    child_induction step c
termination_by sizeOf n

/-- Two nodes that differ at most in what stands below them. -/
structure Alike (n n' : Node) : Prop where
  kind : n.kind = n'.kind
  label : n.label = n'.label
  literal : n.literal = n'.literal
  width : n.children.length = n'.children.length

theorem Alike.refl (n : Node) : Alike n n := ⟨rfl, rfl, rfl, rfl⟩

/-- Nodes that are alike at every position of the first are equal. -/
theorem eq_of_alike {n n' : Node}
    (alike : ∀ path m, n.subtree? path = some m → ∃ m', n'.subtree? path = some m' ∧ Alike m m') :
    n = n' := by
  induction n using child_induction generalizing n' with
  | step n ih =>
    obtain ⟨m', here, root⟩ := alike [] n rfl
    obtain rfl : n' = m' := Option.some.inj here
    have children : n.children = n'.children := by
      apply List.ext_getElem root.width
      intro i inside inside'
      apply ih _ (List.getElem_mem inside)
      intro path m below
      have child : n.children[i]? = some n.children[i] := List.getElem?_eq_getElem inside
      obtain ⟨m', below', same⟩ := alike (i :: path) m (subtree?_cons.mpr ⟨_, child, below⟩)
      obtain ⟨c, child', inner⟩ := subtree?_cons.mp below'
      obtain rfl : n'.children[i] = c := by
        simpa [List.getElem?_eq_getElem inside'] using child'
      exact ⟨m', inner, same⟩
    cases n
    cases n'
    exact Node.mk.injEq .. ▸ ⟨root.kind, root.label, root.literal, children⟩

theorem forestDepth_le {ns : List Node} {k : Nat} :
    forestDepth ns ≤ k ↔ ∀ c ∈ ns, c.depth ≤ k := by
  induction ns with
  | nil => simp [forestDepth]
  | cons n ns ih => rw [forestDepth, Nat.max_le, ih, List.forall_mem_cons]

theorem depth_pos (n : Node) : 0 < n.depth := by
  cases n
  simp only [depth]
  omega

theorem depth_le_succ {n : Node} {k : Nat} :
    n.depth ≤ k + 1 ↔ ∀ c ∈ n.children, c.depth ≤ k := by
  cases n
  simp only [depth]
  rw [← forestDepth_le]
  omega

theorem depth_leaf {n : Node} (leaf : n.children = []) : n.depth = 1 := by
  have := depth_pos n
  have : n.depth ≤ 0 + 1 := depth_le_succ.mpr (by simp [leaf])
  omega

/-- The depth of a tree is one more than the length of its longest position. -/
theorem depth_le_iff {n : Node} {k : Nat} :
    n.depth ≤ k ↔ ∀ path m, n.subtree? path = some m → path.length < k := by
  induction k generalizing n with
  | zero =>
    have := depth_pos n
    constructor
    · intro none
      omega
    · intro short
      exact absurd (short [] n rfl) (Nat.not_lt_zero _)
  | succ k ih =>
    rw [depth_le_succ]
    constructor
    · intro shallow path m here
      cases path with
      | nil => exact Nat.succ_pos k
      | cons i path =>
        obtain ⟨c, child, inner⟩ := subtree?_cons.mp here
        exact Nat.succ_lt_succ (ih.mp (shallow c (List.mem_of_getElem? child)) path m inner)
    · intro short c member
      obtain ⟨i, child⟩ := List.getElem?_of_mem member
      apply ih.mpr
      intro path m inner
      exact Nat.lt_of_succ_lt_succ (short (i :: path) m (subtree?_cons.mpr ⟨c, child, inner⟩))

end ExprDisplay.Node
