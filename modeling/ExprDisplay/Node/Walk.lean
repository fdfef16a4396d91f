import ExprDisplay.Node.Basic

/-!
Walks over a display tree in pre-order: by recursion, and step by step with the nodes
still to be visited.
-/
namespace ExprDisplay.Node

mutual

/-- A node, then the nodes below each child from left to right. -/
def preorder : Node → List Node
  | ⟨kind, label, literal, children⟩ => ⟨kind, label, literal, children⟩ :: forestPreorder children

def forestPreorder : List Node → List Node
  | [] => []
  | n :: ns => preorder n ++ forestPreorder ns

end

mutual

/-- The number of nodes, by recursion. -/
def weight : Node → Nat
  | ⟨_, _, _, children⟩ => 1 + forestWeight children

def forestWeight : List Node → Nat
  | [] => 0
  | n :: ns => weight n + forestWeight ns

end

theorem forestWeight_append (ms ns : List Node) :
    forestWeight (ms ++ ns) = forestWeight ms + forestWeight ns := by
  induction ms with
  | nil => simp [forestWeight]
  | cons m ms ih => simp [forestWeight, ih, Nat.add_assoc]

/-- A walk in progress: the nodes whose subtrees are still to be visited, next first. -/
structure Walk where
  pending : List Node

namespace Walk

/-- Visits the next node; its children come before what was pending. -/
def next? : Walk → Option (Node × Walk)
  | ⟨[]⟩ => none
  | ⟨n :: rest⟩ => some (n, ⟨n.children ++ rest⟩)

/-- A step leaves fewer nodes to visit. -/
theorem weight_next {w rest : Walk} {n : Node} (step : w.next? = some (n, rest)) :
    forestWeight rest.pending < forestWeight w.pending := by
  match w with
  | ⟨[]⟩ => simp [next?] at step
  | ⟨⟨kind, label, literal, children⟩ :: pending⟩ =>
    simp only [next?, Option.some.injEq, Prod.mk.injEq] at step
    rw [← step.2]
    simp only [forestWeight_append, forestWeight, weight]
    omega

/-- The nodes of all remaining steps. -/
def toList (w : Walk) : List Node :=
  match _step : w.next? with
  | none => []
  | some (n, rest) => n :: toList rest
termination_by forestWeight w.pending
decreasing_by exact weight_next _step

end Walk

/-- The walk that starts at a node. -/
def walk (n : Node) : Walk := ⟨[n]⟩

/-- The number of nodes a walk visits. -/
def count (n : Node) : Nat := n.walk.toList.length

mutual

/-- Nodes in pre-order with their distances from the root, which is at `level`. -/
def levels : (level : Nat) → Node → List (Nat × Node)
  | level, ⟨kind, label, literal, children⟩ =>
    (level, ⟨kind, label, literal, children⟩) :: forestLevels (level + 1) children

def forestLevels : (level : Nat) → List Node → List (Nat × Node)
  | _, [] => []
  | level, n :: ns => levels level n ++ forestLevels level ns

end

end ExprDisplay.Node
