import ExprDisplay.Proofs.Node.Levels

/-!
The order of a walk. A walk takes the first pending node and puts its children before
what is still pending.

Main statement: the steps of a walk visit the nodes of a tree in pre-order, so that a
walk meets exactly the nodes that stand at the positions of the tree.
-/

set_option autoImplicit false

namespace ExprDisplay.Node

theorem preorder_eq (n : Node) : n.preorder = n :: forestPreorder n.children := by
  cases n
  rw [preorder]

theorem forestPreorder_append (ms ns : List Node) :
    forestPreorder (ms ++ ns) = forestPreorder ms ++ forestPreorder ns := by
  induction ms with
  | nil => rfl
  | cons m ms ih => rw [List.cons_append, forestPreorder, forestPreorder, ih, List.append_assoc]

/-- A step takes one node off what is to be visited. -/
theorem Walk.forestPreorder_next {w rest : Walk} {n : Node} (step : w.next? = some (n, rest)) :
    forestPreorder w.pending = n :: forestPreorder rest.pending := by
  obtain ⟨pending⟩ := w
  cases pending with
  | nil => cases step
  | cons m ms =>
    obtain ⟨rfl, rfl⟩ := Prod.mk.inj (Option.some.inj step)
    rw [forestPreorder, preorder_eq, forestPreorder_append, List.cons_append]

theorem Walk.eq_nil_of_next {w : Walk} (stop : w.next? = none) : w.pending = [] := by
  obtain ⟨pending⟩ := w
  cases pending with
  | nil => rfl
  | cons m ms => cases stop

/-- The run of all steps. -/
theorem Walk.toList_eq (w : Walk) : w.toList = forestPreorder w.pending := by
  fun_induction Walk.toList w with
  | case1 w stop => rw [Walk.eq_nil_of_next stop, forestPreorder]
  | case2 w n rest step ih => rw [Walk.forestPreorder_next step, ih]

theorem toList_walk (n : Node) : n.walk.toList = n.preorder := by
  rw [Walk.toList_eq, walk, forestPreorder, forestPreorder, List.append_nil]

theorem mem_forestPreorder {ns : List Node} {m : Node} :
    m ∈ forestPreorder ns ↔ ∃ n ∈ ns, m ∈ n.preorder := by
  induction ns with
  | nil => simp [forestPreorder]
  | cons n ns ih => simp [forestPreorder, ih]

/-- The nodes of a walk are those at the positions of the tree. -/
theorem mem_preorder {n m : Node} : m ∈ n.preorder ↔ ∃ path, n.subtree? path = some m := by
  induction n using child_induction with
  | step n ih =>
    rw [preorder_eq, List.mem_cons, mem_forestPreorder]
    constructor
    · rintro (rfl | ⟨c, child, inside⟩)
      · exact ⟨[], rfl⟩
      · obtain ⟨i, place⟩ := List.getElem?_of_mem child
        obtain ⟨path, here⟩ := (ih c child).mp inside
        exact ⟨i :: path, subtree?_cons.mpr ⟨c, place, here⟩⟩
    · rintro ⟨path, here⟩
      cases path with
      | nil => exact .inl (Option.some.inj here).symm
      | cons i path =>
        obtain ⟨c, place, inner⟩ := subtree?_cons.mp here
        have child := List.mem_of_getElem? place
        exact .inr ⟨c, child, (ih c child).mpr ⟨path, inner⟩⟩

end ExprDisplay.Node
