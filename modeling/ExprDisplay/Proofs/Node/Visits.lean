import Mathlib
import ExprDisplay.Proofs.Node.PositionOrder

/-!
The visits of a walk, step by step. What is pending is a stack with its top first: a step
takes the top off and puts the children of that node in its place.

Main statement: the steps of a walk visit the nodes of a tree in pre-order, each position
once, and find nothing from then on. The number of nodes and the depth of a tree follow from
what is visited.
-/

set_option autoImplicit false

namespace ExprDisplay.Node

namespace Walk

/-- What a step leaves of a walk. A walk that is over stays as it is. -/
def after (w : Walk) : Walk := (w.next?.map Prod.snd).getD w

/-- What step number `k` visits, counted from zero; nothing once the walk is over. -/
def visit? (w : Walk) : (k : Nat) → Option Node
  | 0 => w.next?.map Prod.fst
  | k + 1 => w.after.visit? k

/-- What is still to be visited is the pre-order of the pending trees, one after the other. A
step visits the first node of it and leaves the others. -/
theorem next_eq_head_tail (w : Walk) :
    w.next?.map Prod.fst = (forestPreorder w.pending).head? ∧
      forestPreorder w.after.pending = (forestPreorder w.pending).tail := by
  rw [after]
  cases step : w.next? with
  | none =>
    have empty : forestPreorder w.pending = [] := by rw [eq_nil_of_next step, forestPreorder]
    simp [empty]
  | some visited =>
    rw [forestPreorder_next step]
    exact ⟨rfl, rfl⟩

theorem visit?_eq (w : Walk) (k : Nat) : w.visit? k = (forestPreorder w.pending)[k]? := by
  induction k generalizing w with
  | zero => rw [visit?, (next_eq_head_tail w).1, List.head?_eq_getElem?]
  | succ k ih => rw [visit?, ih, (next_eq_head_tail w).2, List.getElem?_tail]

end Walk

/-! ### Pre-order, child by child -/

theorem forestPreorder_eq_flatMap (ns : List Node) : forestPreorder ns = ns.flatMap preorder := by
  induction ns with
  | nil => rfl
  | cons n ns ih => rw [forestPreorder, ih, List.flatMap_cons]

theorem preorder_eq_flatMap (n : Node) : n.preorder = n :: n.children.flatMap preorder := by
  rw [preorder_eq, forestPreorder_eq_flatMap]

theorem count_eq_length (n : Node) : n.count = n.preorder.length := by
  rw [count, toList_walk]

theorem count_eq_sum (n : Node) : n.count = 1 + (n.children.map count).sum := by
  have each : n.children.map count = n.children.map fun c => c.preorder.length :=
    List.map_congr_left fun c _ => count_eq_length c
  rw [count_eq_length, preorder_eq_flatMap, List.length_cons, List.length_flatMap, each,
    Nat.add_comm]

/-! ### Positions visited -/

theorem visit?_walk (n : Node) (k : Nat) : n.walk.visit? k = n.preorder[k]? := by
  rw [Walk.visit?_eq, ← Walk.toList_eq, toList_walk]

/-- Positions and nodes are listed side by side, so a step visits the node at its position. -/
theorem visit?_walk_eq_subtree? (n : Node) (k : Nat) :
    n.walk.visit? k = n.positions[k]?.bind n.subtree? := by
  rw [visit?_walk, ← map_snd_places, positions, List.getElem?_map, List.getElem?_map]
  cases here : n.places[k]? with
  | none => rfl
  | some place => exact (mem_places.mp (List.mem_of_getElem? here)).symm

theorem nodup_positions (n : Node) : n.positions.Nodup :=
  (pairwise_positions n).imp fun before same => by
    subst same
    exact before.asymm before

theorem length_lt_depth {n : Node} {path : List Nat} (listed : path ∈ n.positions) :
    path.length < n.depth := by
  obtain ⟨m, here⟩ := Option.isSome_iff_exists.mp (mem_positions.mp listed)
  exact depth_le_iff.mp (Nat.le_refl n.depth) path m here

/-- Some position is as long as the depth allows. -/
theorem exists_depth_eq (n : Node) : ∃ path ∈ n.positions, n.depth = 1 + path.length := by
  by_contra missing
  -- without such a position all are shorter by one, and the depth is smaller than itself
  have shorter : n.depth ≤ n.depth - 1 := by
    refine depth_le_iff.mpr fun path m here => ?_
    have listed : path ∈ n.positions := mem_positions.mpr (by rw [here]; rfl)
    have bound := length_lt_depth listed
    have different : n.depth ≠ 1 + path.length := fun same => missing ⟨path, listed, same⟩
    omega
  have positive := depth_pos n
  omega

/-- No position is longer than one that the depth is reached at. -/
theorem max?_length_positions {n : Node} {path : List Nat} (listed : path ∈ n.positions)
    (deep : n.depth = 1 + path.length) :
    (n.positions.map List.length).max? = some path.length := by
  rw [List.max?_eq_some_iff]
  refine ⟨List.mem_map_of_mem listed, ?_⟩
  rw [List.forall_mem_map]
  intro other otherListed
  have bound := length_lt_depth otherListed
  omega

/-- Step by step a walk visits the nodes in pre-order, a node before its children and these
from left to right, and nothing afterwards; so all its steps give the pre-order. Every
position of the tree is visited exactly once. A node counts as one more than its children
together, and the depth is one more than the greatest distance of a visited position from
the root. -/
theorem walk_visits_preorder (t : Node) :
    (∀ k, t.walk.visit? k = t.preorder[k]?) ∧
    t.walk.toList = t.preorder ∧
    t.preorder = t :: t.children.flatMap preorder ∧
    (∀ k, t.walk.visit? k = t.positions[k]?.bind t.subtree?) ∧
    t.positions.Nodup ∧
    (∀ path, path ∈ t.positions ↔ (t.subtree? path).isSome) ∧
    t.count = 1 + (t.children.map count).sum ∧
    (t.positions.map List.length).max?.map (1 + ·) = some t.depth := by
  obtain ⟨farthest, listed, deep⟩ := exists_depth_eq t
  refine ⟨visit?_walk t, toList_walk t, preorder_eq_flatMap t, visit?_walk_eq_subtree? t,
    nodup_positions t, fun _ => mem_positions, count_eq_sum t, ?_⟩
  rw [max?_length_positions listed deep, Option.map_some, deep]

end ExprDisplay.Node
