import ExprDisplay.Expr.Basic

/-!
Display trees: what a viewer shows of an expression. A node has a label, the kind
of expression it stands for (none for nodes made up for the display), that
expression's text, and its children in order.
-/
namespace ExprDisplay

structure Node where
  kind : Option Kind
  label : String
  literal : Option String
  children : List Node
  deriving Repr

namespace Node

/-- A node with a label and nothing else. -/
def leaf (label : String) : Node := ⟨none, label, none, []⟩

def isLeaf (n : Node) : Bool := n.children.isEmpty

def childLabels (n : Node) : List String := n.children.map Node.label

mutual

/-- The number of nodes on a longest path down. -/
def depth : Node → Nat
  | ⟨_, _, _, children⟩ => 1 + forestDepth children

def forestDepth : List Node → Nat
  | [] => 0
  | n :: ns => max (depth n) (forestDepth ns)

end

mutual

def beq : Node → Node → Bool
  | ⟨k, l, t, cs⟩, ⟨k', l', t', cs'⟩ => k == k' && l == l' && t == t' && beqForest cs cs'

def beqForest : List Node → List Node → Bool
  | [], [] => true
  | m :: ms, n :: ns => beq m n && beqForest ms ns
  | _, _ => false

end

instance : BEq Node := ⟨beq⟩

end Node

end ExprDisplay
