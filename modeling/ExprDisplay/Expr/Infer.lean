import ExprDisplay.Expr.Basic

/-!
Expressions whose type follows from their parts.
-/
namespace ExprDisplay.Expr

/-- A comparison gives a truth value, an element access the element, and any other
operator the type of its left operand. -/
def inferBinary (op : BinaryOp) (left right : Expr) : Expr :=
  let ty :=
    if op.isComparison then .bool
    else if op = .arrayIndex then left.ty.element?.getD left.ty
    else left.ty
  .binary op left right ty

def convert (operand : Expr) (ty : Ty) : Expr := .unary .convert operand ty

def typeIs (operand : Expr) (ty : Ty) : Expr := .typeBinary .typeIs operand ty

def typeEqual (operand : Expr) (ty : Ty) : Expr := .typeBinary .typeEqual operand ty

/-- A block gives what its last expression gives. -/
def inferBlock (locals : List Param) (expressions : List Expr) : Expr :=
  .block locals expressions ((expressions.getLast?.map ty).getD .void)

/-- A conditional has the type of its true branch. -/
def inferConditional (test ifTrue ifFalse : Expr) : Expr :=
  .conditional test ifTrue ifFalse ifTrue.ty

/-- A late-bound operation gives an object. -/
def inferDynamic (binder : String) (delegateType : Ty) (arguments : List Expr) : Expr :=
  .dynamic binder delegateType arguments .object

def gotoTarget (target : Target) : Expr := .goto .goto target none .void

/-- An element has the element type of its array. -/
def arrayAccess (array : Expr) (indexes : List Expr) : Expr :=
  .index array none indexes array.ty.elementOrObject

def propertyIndex (object : Expr) (indexer : String) (arguments : List Expr) (ty : Ty) : Expr :=
  .index object (some indexer) arguments ty

/-- What calling a value of the type gives: the last argument of a function type,
and nothing for any other type. -/
def callResult : Ty → Ty
  | .generic name _ arguments =>
    if "Func".toList.isPrefixOf name.toList then arguments.getLast?.getD .void else .void
  | _ => .void

/-- An invocation gives what the invoked function returns. -/
def inferInvocation (function : Expr) (arguments : List Expr) : Expr :=
  let ty := match function with
    | .lambda _ _ _ returnType _ => returnType
    | other => callResult other.ty
  .invocation function arguments ty

/-- The type of a function: its parameters' types and then its result's. -/
def functionType (parameters : List Param) (result : Ty) : Ty :=
  let arguments := parameters.map Param.ty ++ [result]
  .generic ("Func\x60" ++ toString arguments.length) .delegate arguments

/-- A lambda returns what its body gives. -/
def inferLambda (parameters : List Param) (body : Expr) : Expr :=
  .lambda none parameters body body.ty (functionType parameters body.ty)

def endlessLoop (body : Expr) : Expr := .loop body none none

def newArrayInit (element : Ty) (expressions : List Expr) : Expr :=
  .newArray .init (element.arrayOf 1) expressions

/-- A new array has a dimension for every bound. -/
def newArrayBounds (element : Ty) (bounds : List Expr) : Expr :=
  .newArray .bounds (element.arrayOf bounds.length) bounds

/-- A switch has the type of its first case, or else of its default. -/
def inferSwitch (value : Expr) (defaultBody : Option Expr) (cases : List (Case Expr)) : Expr :=
  let ty := match cases, defaultBody with
    | first :: _, _ => first.body.ty
    | [], some body => body.ty
    | [], none => .void
  .switch value cases defaultBody ty

/-- A try has the type of its body. -/
def inferTry (body : Expr) (handlers : List (Handler Expr)) (finalizer : Option Expr) : Expr :=
  .tryCatch body handlers finalizer body.ty

end ExprDisplay.Expr
