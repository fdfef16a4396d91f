import ExprDisplay.Node.Basic

/-!
A display tree drawn with connectors, one node a line:

    λ LambdaExpression [int] Parameters:
    ├─ ▢ ParameterExpression [int]: a
    └─ ± Body => BinaryExpression: [Add-int]
      ├─ ▢ Left => ParameterExpression [int]: a
      └─ ◆ Right => ConstantExpression [int]: 1
-/
namespace ExprDisplay.Node

structure DrawingOptions where
  /-- Longer labels and literals are cut to this many characters; zero keeps them whole. -/
  maxLabelWidth : Nat
  /-- Whether a node's literal follows its label. -/
  showLiteral : Bool
  deriving DecidableEq, Repr

def DrawingOptions.default : DrawingOptions := ⟨0, false⟩

/-- The first `width` characters and dots for the others; width zero cuts nothing. -/
def truncate (width : Nat) (s : String) : String :=
  if 0 < width ∧ width < s.toList.length then String.ofList (s.toList.take width) ++ "..." else s

/-- The mark of a kind; nodes made up for the display share that of extensions. -/
def icon : Option Kind → String
  | some .binary => "±"
  | some .unary => "¬"
  | some .typeBinary => "⊨"
  | some .block => "▣"
  | some .conditional => "?"
  | some .goto => "↪"
  | some .label => "⚑"
  | some .loop => "↻"
  | some .switch => "⋔"
  | some .tryCatch => "⚠"
  | some .constant => "◆"
  | some .default => "◇"
  | some .parameter => "▢"
  | some .debugInfo => "ⓘ"
  | some .member => "."
  | some .methodCall => "ƒ"
  | some .invocation => "⊳"
  | some .index => "⌗"
  | some .dynamic => "⚡"
  | some .lambda => "λ"
  | some .runtimeVariables => "⧉"
  | some .new => "✚"
  | some .newArray => "⊞"
  | some .listInit => "☰"
  | some .memberInit => "≔"
  | some .extension => "○"
  | none => "○"

/-- What a line says about its node. -/
def caption (o : DrawingOptions) (kind : Option Kind) (label : String) (literal : Option String) :
    String :=
  let named := icon kind ++ " " ++ truncate o.maxLabelWidth label
  match o.showLiteral, literal with
  | true, some text => named ++ "  ⟨" ++ truncate o.maxLabelWidth text ++ "⟩"
  | _, _ => named

/-- The connector of a node and the guide it passes to its children. -/
def connector (last : Bool) : String := if last then "└─ " else "├─ "

def extendGuide (guide : String) (last : Bool) : String := guide ++ (if last then "  " else "│ ")

mutual

/-- The lines of a node below the root and of what is below it. -/
def branchLines (o : DrawingOptions) (guide : String) (last : Bool) : Node → List String
  | ⟨kind, label, literal, children⟩ =>
    (guide ++ connector last ++ caption o kind label literal) ::
      forestLines o (extendGuide guide last) children

def forestLines (o : DrawingOptions) (guide : String) : List Node → List String
  | [] => []
  | n :: ns => branchLines o guide ns.isEmpty n ++ forestLines o guide ns

end

/-- The lines of a drawing, without their ends. -/
def drawingLines (o : DrawingOptions) (n : Node) : List String :=
  caption o n.kind n.label n.literal :: forestLines o "" n.children

def drawing (o : DrawingOptions) (n : Node) : String :=
  String.join ((n.drawingLines o).map (· ++ "\n"))

end ExprDisplay.Node
