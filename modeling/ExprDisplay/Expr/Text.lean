import ExprDisplay.Expr.Basic
import ExprDisplay.Value.Literal

/-!
One-line text of expressions. Each kind has a template whose holes are the
expressions it shows; the text fills them level by level and writes `...` where
the levels are used up, so it stays short for a tree of any depth. Parts such as
constructions and bindings are written within the level of their expression.
-/
namespace ExprDisplay.Expr

/-- How an expression is written around the expressions it shows. The bodies of
statements are not shown. -/
def template : Expr → Template Expr
  | .binary .arrayIndex left right _ => [.hole left, "[", .hole right, "]"]
  | .binary op left right _ =>
    ["(", .hole left, .text (" " ++ op.symbol ++ " "), .hole right, ")"]
  | .block locals expressions _ =>
    .text "\x7b" :: (locals.map fun v => .text (" var " ++ v.text ++ ";")) ++
      (expressions.flatMap fun e => [.text " ", .hole e, .text ";"]) ++ [.text " \x7d"]
  | .conditional test ifTrue ifFalse _ =>
    ["IIF(", .hole test, ", ", .hole ifTrue, ", ", .hole ifFalse, ")"]
  | .constant value ty => [.text (value.literal ty)]
  | .debugInfo document span =>
    [.text ("<DebugInfo(" ++ document.fileName ++ ": " ++ toString span.startLine ++ ", " ++
      toString span.startColumn ++ ", " ++ toString span.endLine ++ ", " ++
      toString span.endColumn ++ ")>")]
  | .default ty => [.text ("default(" ++ ty.runtimeName ++ ")")]
  | .dynamic binder _ arguments _ =>
    .text ("Dynamic " ++ binder ++ "(") :: Template.list arguments ++ [.text ")"]
  | .goto kind target none _ => [.text (kind.keyword ++ " " ++ target.text)]
  | .goto kind target (some value) _ =>
    [.text (kind.keyword ++ " " ++ target.text ++ " "), .hole value]
  | .index object none arguments _ =>
    .hole object :: .text "[" :: Template.list arguments ++ [.text "]"]
  | .index object (some indexer) arguments _ =>
    .hole object :: .text ("." ++ indexer ++ "[") :: Template.list arguments ++ [.text "]"]
  | .invocation function arguments _ =>
    .text "Invoke(" :: .hole function :: (arguments.flatMap fun e => [.text ", ", .hole e]) ++
      [.text ")"]
  | .label target none => [.text ("\x7b " ++ target.text ++ ": \x7d")]
  | .label target (some value) =>
    [.text ("\x7b " ++ target.text ++ ": "), .hole value, " \x7d"]
  | .lambda _ [p] body _ _ => [.text (p.text ++ " => "), .hole body]
  | .lambda _ parameters body _ _ =>
    [.text ("(" ++ ", ".intercalate (parameters.map Param.text) ++ ") => "), .hole body]
  | .listInit construction initializers =>
    construction.template ++ .text " \x7b" ::
      Template.separated (initializers.map ElementInit.template) ++ [.text "\x7d"]
  | .loop .. => ["loop \x7b ... \x7d"]
  | .member (some object) m _ => [.hole object, .text ("." ++ m.name)]
  | .member none m _ => [.text (m.declaringType.runtimeName ++ "." ++ m.name)]
  | .memberInit construction bindings =>
    construction.template ++ .text " \x7b" :: Template.separated (Binding.templates bindings) ++
      [.text "\x7d"]
  | .methodCall (some object) method arguments =>
    .hole object :: .text ("." ++ method.name ++ "(") :: Template.list arguments ++ [.text ")"]
  | .methodCall none method arguments =>
    .text (method.declaringType.runtimeName ++ "." ++ method.name ++ "(") ::
      Template.list arguments ++ [.text ")"]
  | .newArray .init _ expressions => .text "new [] \x7b" :: Template.list expressions ++ [.text "\x7d"]
  | .newArray .bounds ty expressions =>
    .text ("new " ++ (ty.element?.getD ty).runtimeName ++ "[") :: Template.list expressions ++
      [.text "]"]
  | .new construction => construction.template
  | .parameter p => [.text p.text]
  | .runtimeVariables locals =>
    [.text ("(" ++ ", ".intercalate (locals.map Param.text) ++ ")")]
  | .switch value _ _ _ => ["switch (", .hole value, ") \x7b ... \x7d"]
  | .tryCatch .. => ["try \x7b ... \x7d"]
  | .typeBinary test operand typeOperand =>
    ["(", .hole operand, .text (" " ++ test.word ++ " " ++ typeOperand.runtimeName ++ ")")]
  | .unary .negate operand _ => ["-", .hole operand]
  | .unary .unaryPlus operand _ => ["+", .hole operand]
  | .unary .quote operand _ => [.hole operand]
  | .unary .typeAs operand ty => ["(", .hole operand, .text (" As " ++ ty.runtimeName ++ ")")]
  | .unary .convert operand ty =>
    [.text (UnaryOp.convert.name ++ "("), .hole operand, .text (", " ++ ty.runtimeName ++ ")")]
  | .unary .convertChecked operand ty =>
    [.text (UnaryOp.convertChecked.name ++ "("), .hole operand,
      .text (", " ++ ty.runtimeName ++ ")")]
  | .unary op operand _ => [.text (op.name ++ "("), .hole operand, ")"]
  | .extension _ _ text => [.text text]

/-- What stands for an expression when no level is left. -/
def ellipsis : String := "..."

/-- Text with the given number of levels. -/
def textWithin : (levels : Nat) → Expr → String
  | 0, _ => ellipsis
  | levels + 1, e => e.template.fill (textWithin levels)

/-- Levels of nesting that a text shows. -/
def textLevels : Nat := 64

def text (e : Expr) : String := e.textWithin textLevels

/-- Fills a part that stands by itself, so that its expressions have all levels. -/
def partText (t : Template Expr) : String := t.fill text

example : (binary .add (parameter (.named .int "a")) (constant (.int 1) .int) .int).text = "(a + 1)" := by
  decide +kernel

end ExprDisplay.Expr
