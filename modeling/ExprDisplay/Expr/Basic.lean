import ExprDisplay.Expr.Operator
import ExprDisplay.Expr.Part
import ExprDisplay.Value.Basic

/-!
Expression trees: one constructor for every kind of node, and `extension` for what
is none of these.
-/
namespace ExprDisplay

inductive Expr where
  | binary (op : BinaryOp) (left right : Expr) (ty : Ty)
  | block (locals : List Param) (expressions : List Expr) (ty : Ty)
  | conditional (test ifTrue ifFalse : Expr) (ty : Ty)
  | constant (value : Value) (ty : Ty)
  | debugInfo (document : Document) (span : Span)
  | default (ty : Ty)
  /-- A late-bound operation. -/
  | dynamic (binder : String) (delegateType : Ty) (arguments : List Expr) (ty : Ty)
  | goto (kind : GotoKind) (target : Target) (value : Option Expr) (ty : Ty)
  /-- An element of an array, or of an indexed property where one is named. -/
  | index (object : Expr) (indexer : Option String) (arguments : List Expr) (ty : Ty)
  | invocation (function : Expr) (arguments : List Expr) (ty : Ty)
  | label (target : Target) (defaultValue : Option Expr)
  | lambda (name : Option String) (parameters : List Param) (body : Expr)
      (returnType delegateType : Ty)
  | listInit (construction : Construction Expr) (initializers : List (ElementInit Expr))
  | loop (body : Expr) (breakLabel continueLabel : Option Target)
  /-- A member of an object, or of its type where there is no object. -/
  | member (object : Option Expr) (member : Member) (ty : Ty)
  | memberInit (construction : Construction Expr) (bindings : List (Binding Expr))
  | methodCall (object : Option Expr) (method : Method) (arguments : List Expr)
  | newArray (kind : NewArrayKind) (ty : Ty) (expressions : List Expr)
  | new (construction : Construction Expr)
  | parameter (p : Param)
  | runtimeVariables (locals : List Param)
  | switch (value : Expr) (cases : List (Case Expr)) (defaultBody : Option Expr) (ty : Ty)
  | tryCatch (body : Expr) (handlers : List (Handler Expr)) (finalizer : Option Expr) (ty : Ty)
  | typeBinary (test : TypeTest) (operand : Expr) (typeOperand : Ty)
  | unary (op : UnaryOp) (operand : Expr) (ty : Ty)
  | extension (ty : Ty) (opKind : Option String) (text : String)

/-- The kinds of expressions. -/
inductive Kind where
  | binary | block | conditional | constant | debugInfo | default | dynamic | goto | index
  | invocation | label | lambda | listInit | loop | member | memberInit | methodCall | newArray
  | new | parameter | runtimeVariables | switch | tryCatch | typeBinary | unary | extension
  deriving DecidableEq, Repr

namespace Kind

def all : List Kind :=
  [.binary, .block, .conditional, .constant, .debugInfo, .default, .dynamic, .goto, .index,
    .invocation, .label, .lambda, .listInit, .loop, .member, .memberInit, .methodCall, .newArray,
    .new, .parameter, .runtimeVariables, .switch, .tryCatch, .typeBinary, .unary, .extension]

def name : Kind → String
  | .binary => "Binary"
  | .block => "Block"
  | .conditional => "Conditional"
  | .constant => "Constant"
  | .debugInfo => "DebugInfo"
  | .default => "Default"
  | .dynamic => "Dynamic"
  | .goto => "Goto"
  | .index => "Index"
  | .invocation => "Invocation"
  | .label => "Label"
  | .lambda => "Lambda"
  | .listInit => "ListInit"
  | .loop => "Loop"
  | .member => "Member"
  | .memberInit => "MemberInit"
  | .methodCall => "MethodCall"
  | .newArray => "NewArray"
  | .new => "New"
  | .parameter => "Parameter"
  | .runtimeVariables => "RuntimeVariables"
  | .switch => "Switch"
  | .tryCatch => "Try"
  | .typeBinary => "TypeBinary"
  | .unary => "Unary"
  | .extension => "Extension"

def ofName? (name : String) : Option Kind := all.find? (·.name == name)

end Kind

namespace Expr

def kind : Expr → Kind
  | .binary .. => .binary
  | .block .. => .block
  | .conditional .. => .conditional
  | .constant .. => .constant
  | .debugInfo .. => .debugInfo
  | .default .. => .default
  | .dynamic .. => .dynamic
  | .goto .. => .goto
  | .index .. => .index
  | .invocation .. => .invocation
  | .label .. => .label
  | .lambda .. => .lambda
  | .listInit .. => .listInit
  | .loop .. => .loop
  | .member .. => .member
  | .memberInit .. => .memberInit
  | .methodCall .. => .methodCall
  | .newArray .. => .newArray
  | .new .. => .new
  | .parameter .. => .parameter
  | .runtimeVariables .. => .runtimeVariables
  | .switch .. => .switch
  | .tryCatch .. => .tryCatch
  | .typeBinary .. => .typeBinary
  | .unary .. => .unary
  | .extension .. => .extension

/-- The type of a captured set of variables. -/
def runtimeVariablesType : Ty := .named "IRuntimeVariables" .interface

/-- The static type of the value an expression gives. -/
def ty : Expr → Ty
  | .binary _ _ _ ty => ty
  | .block _ _ ty => ty
  | .conditional _ _ _ ty => ty
  | .constant _ ty => ty
  | .debugInfo .. => .void
  | .default ty => ty
  | .dynamic _ _ _ ty => ty
  | .goto _ _ _ ty => ty
  | .index _ _ _ ty => ty
  | .invocation _ _ ty => ty
  | .label target _ => target.ty
  | .lambda _ _ _ _ delegateType => delegateType
  | .listInit construction _ => construction.ty
  | .loop _ breakLabel _ => (breakLabel.map Target.ty).getD .void
  | .member _ _ ty => ty
  | .memberInit construction _ => construction.ty
  | .methodCall _ method _ => method.returnType
  | .newArray _ ty _ => ty
  | .new construction => construction.ty
  | .parameter p => p.ty
  | .runtimeVariables _ => runtimeVariablesType
  | .switch _ _ _ ty => ty
  | .tryCatch _ _ _ ty => ty
  | .typeBinary .. => .bool
  | .unary _ _ ty => ty
  | .extension ty _ _ => ty

end Expr

end ExprDisplay
