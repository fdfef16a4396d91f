import ExprDisplay.Node.Basic

/-!
A display tree as an outline: a label a line, two spaces a level.
-/
namespace ExprDisplay.Node

def indent (level : Nat) : String := String.ofList (List.replicate (2 * level) ' ')

mutual

def outlineLinesAt (level : Nat) : Node → List String
  | ⟨_, label, _, children⟩ => (indent level ++ label) :: forestOutline (level + 1) children

def forestOutline (level : Nat) : List Node → List String
  | [] => []
  | n :: ns => outlineLinesAt level n ++ forestOutline level ns

end

/-- The lines of an outline, without their ends. -/
def outlineLines (n : Node) : List String := outlineLinesAt 0 n

def outline (n : Node) : String := String.join (n.outlineLines.map (· ++ "\n"))

end ExprDisplay.Node
