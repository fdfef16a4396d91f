import ExprDisplay.Expr.Text
import ExprDisplay.Node.Basic

/-!
The display tree of an expression. What a single expression shows is a label and a
list of slots for its children; a tree is built by filling the slots level by level
until the level limit, where a sub-expression becomes a truncated leaf. Nodes that
are part of their parent's display (parameters of a lambda, a case, a handler, the
construction of a list initializer) are never truncated.
-/
namespace ExprDisplay

/-- What may stand inside a group. -/
inductive Entry where
  /-- A node without children. -/
  | leaf (node : Node)
  /-- A sub-expression in a role. -/
  | sub (role : Option String) (e : Expr)

/-- What may stand below an expression: an entry, or a node made for the display with
entries below it. -/
inductive Slot where
  | entry (e : Entry)
  | group (head : Node) (entries : List Entry)

namespace Slot

def leaf (label : String) : Slot := .entry (.leaf (Node.leaf label))

def sub (role : String) (e : Expr) : Slot := .entry (.sub (some role) e)

/-- A sub-expression without a role. -/
def plain (e : Expr) : Slot := .entry (.sub none e)

end Slot

/-- An optional sub-expression; where it is absent a leaf says so. -/
def Entry.optional (role : String) : Option Expr → Entry
  | some e => .sub (some role) e
  | none => .leaf (Node.leaf (role ++ " => null"))

/-- A label after the role it stands in. -/
def withRole : (role : Option String) → (label : String) → String
  | some role, label => role ++ " => " ++ label
  | none, label => label

/-- The node of a parameter. -/
def Param.node (p : Param) : Node :=
  ⟨some .parameter, "ParameterExpression [" ++ p.ty.name ++ "]: " ++ p.nameOrEmpty, some p.text, []⟩

/-- The text of a construction that stands by itself. -/
def Construction.text (c : Construction Expr) : String := Expr.partText c.template

def Construction.label : String := "NewExpression Arguments:"

/-- The arguments of a construction in the roles of the members they set. -/
def Construction.entries (c : Construction Expr) : List Entry :=
  c.labelled.map fun (member, e) => .sub member e

namespace Expr

/-- The label of an expression, without a role. -/
def headline : Expr → String
  | .binary op _ _ ty => "BinaryExpression: [" ++ op.name ++ "-" ++ ty.name ++ "]"
  | .block .. => "BlockExpression Expressions:"
  | .conditional _ _ _ ty => "ConditionalExpression: [" ++ ty.name ++ "]"
  | .constant value ty => "ConstantExpression [" ++ ty.name ++ "]: " ++ value.literal ty
  | .debugInfo .. => "DebugInfoExpression:"
  | .default ty => "DefaultExpression: [" ++ ty.kind.word ++ "-" ++ ty.name ++ "]"
  | .dynamic _ delegateType _ _ => "DynamicExpression [" ++ delegateType.name ++ "] Arguments:"
  | .goto _ _ _ ty => "GotoExpression: [" ++ ty.name ++ "]"
  | .index _ indexer _ _ => "IndexExpression [" ++ indexer.getD "" ++ "] Arguments:"
  | .invocation function _ _ => "InvocationExpression [" ++ function.text ++ "] Arguments:"
  | .label target _ => "LabelExpression [" ++ target.ty.name ++ "]"
  | .lambda _ _ _ returnType _ => "LambdaExpression [" ++ returnType.name ++ "] Parameters:"
  | .listInit .. => "ListInitExpression"
  | .loop .. => "LoopExpression"
  | .member _ m ty => "MemberExpression [" ++ ty.name ++ "]: " ++ m.name
  | .memberInit construction _ => "MemberInitExpression [" ++ construction.ty.name ++ "]:"
  | .methodCall _ method _ => "MethodCallExpression [" ++ method.name ++ "] Arguments:"
  | .newArray _ ty _ => "NewArrayExpression [" ++ ty.name ++ "]"
  | .new _ => Construction.label
  | .parameter p => p.node.label
  | .runtimeVariables _ => "RuntimeVariablesExpression [" ++ runtimeVariablesType.name ++ "]"
  | .switch _ _ _ ty => "SwitchExpression [" ++ ty.name ++ "]"
  | .tryCatch _ _ _ ty => "TryExpression [" ++ ty.name ++ "]"
  | .typeBinary _ _ typeOperand => "TypeBinaryExpression [" ++ typeOperand.name ++ "] Operand:"
  | .unary op _ ty => "UnaryExpression [" ++ op.name ++ "-" ++ ty.name ++ "] Operand:"
  | .extension ty (some opKind) text =>
    "Unknown Node [" ++ ty.name ++ "-" ++ opKind ++ "]: " ++ text
  | .extension ty none text => "Unknown Node [" ++ ty.name ++ "]: " ++ text

/-- The text that goes with an expression's node. A construction is written by
itself, so its arguments have all levels of text. -/
def literalText : Expr → String
  | .new construction => construction.text
  | e => e.text

/-- The children of an expression, in order. -/
def slots : Expr → List Slot
  | .binary _ left right _ => [.sub "Left" left, .sub "Right" right]
  | .block _ expressions _ => expressions.map .plain
  | .conditional test ifTrue ifFalse _ =>
    [.sub "Test" test, .sub "IfTrue" ifTrue, .sub "IfFalse" ifFalse]
  | .constant .. => []
  | .debugInfo document span =>
    [.leaf ("FileName: " ++ document.fileName),
      .leaf ("Language: " ++ document.language.text),
      .leaf ("LanguageVendor: " ++ document.languageVendor.text),
      .leaf ("DocumentType: " ++ document.documentType.text),
      .leaf ("StartLine: " ++ toString span.startLine),
      .leaf ("StartColumn: " ++ toString span.startColumn),
      .leaf ("EndLine: " ++ toString span.endLine),
      .leaf ("EndColumn: " ++ toString span.endColumn)]
  | .default _ => []
  | .dynamic _ _ arguments _ => arguments.map .plain
  | .goto kind target value _ =>
    [.leaf ("Kind => " ++ kind.name), .leaf ("Target => " ++ target.text),
      .entry (.optional "Value" value)]
  | .index object _ arguments _ => arguments.map .plain ++ [.sub "Object" object]
  | .invocation function arguments _ => arguments.map .plain ++ [.sub "Expression" function]
  | .label target defaultValue =>
    [.leaf ("Target => " ++ target.text), .entry (.optional "DefaultValue" defaultValue)]
  | .lambda _ parameters body _ _ =>
    (parameters.map fun p => .entry (.leaf p.node)) ++ [.sub "Body" body]
  | .listInit construction _ =>
    [.group ⟨some .new, Construction.label, some construction.text, []⟩ construction.entries]
  | .loop body _ _ => [.sub "Body" body]
  | .member .. => []
  | .memberInit _ bindings => bindings.map fun b => .leaf (partText b.template)
  | .methodCall _ _ arguments => arguments.map .plain
  | .newArray _ _ expressions => expressions.map .plain
  | .new construction => construction.entries.map .entry
  | .parameter _ => []
  | .runtimeVariables locals => locals.map fun p => .entry (.leaf p.node)
  | .switch _ cases _ _ =>
    cases.map fun c =>
      .group (Node.leaf "Case")
        ((c.testValues.map fun e => .sub (some "Value") e) ++ [.sub (some "Body") c.body])
  | .tryCatch body handlers finalizer _ =>
    .sub "Try" body ::
      (handlers.map fun h =>
        .group (Node.leaf "Catch") [.optional "Filter" h.filter, .sub (some "Body") h.body]) ++
      [.entry (.optional "Finally" finalizer)]
  | .typeBinary _ operand _ => [.plain operand]
  | .unary _ operand _ => [.plain operand]
  | .extension .. => []

end Expr

namespace Node

/-- How sub-expressions become nodes. -/
abbrev Builder := (role : Option String) → Expr → Node

/-- The leaf that stands for an expression at the level limit. -/
def truncated (depth : Nat) : Builder := fun role e =>
  leaf (withRole role ("Truncated Node [depth " ++ toString depth ++ "]: " ++ e.kind.name))

def fillEntry (build : Builder) : Entry → Node
  | .leaf node => node
  | .sub role e => build role e

/-- Fills a slot: `near` builds what stands right below the expression, `far` what
stands below a group. -/
def fillSlot (near far : Builder) : Slot → Node
  | .entry e => fillEntry near e
  | .group head entries => { head with children := entries.map (fillEntry far) }

/-- The node of an expression over the nodes of its slots. -/
def assemble (near far : Builder) : Builder := fun role e =>
  { kind := some e.kind
    label := withRole role e.headline
    literal := some e.literalText
    children := e.slots.map (fillSlot near far) }

/-- The tree of at most `levels` levels of expressions, its root at `depth`. -/
def ofExprAt : (levels depth : Nat) → Builder
  | 0, depth => truncated depth
  | 1, depth => assemble (truncated (depth + 1)) (truncated (depth + 2))
  | levels + 2, depth =>
    assemble (ofExprAt (levels + 1) (depth + 1)) (ofExprAt levels (depth + 2))

/-- The display tree, cut at depth `limit`. -/
def ofExpr (limit : Nat) (role : Option String) (e : Expr) : Node := ofExprAt limit 0 role e

def defaultLimit : Nat := 256

end Node

end ExprDisplay
