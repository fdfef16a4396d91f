/-!
Operators and the other closed choices that expressions make.
-/
namespace ExprDisplay

inductive BinaryOp where
  | add | subtract | multiply | divide | modulo | power
  | and | andAlso | or | orElse | exclusiveOr
  | equal | notEqual | lessThan | lessThanOrEqual | greaterThan | greaterThanOrEqual
  | leftShift | rightShift | coalesce | arrayIndex | assign
  deriving DecidableEq, Repr

namespace BinaryOp

def all : List BinaryOp :=
  [.add, .subtract, .multiply, .divide, .modulo, .power,
    .and, .andAlso, .or, .orElse, .exclusiveOr,
    .equal, .notEqual, .lessThan, .lessThanOrEqual, .greaterThan, .greaterThanOrEqual,
    .leftShift, .rightShift, .coalesce, .arrayIndex, .assign]

def name : BinaryOp → String
  | .add => "Add"
  | .subtract => "Subtract"
  | .multiply => "Multiply"
  | .divide => "Divide"
  | .modulo => "Modulo"
  | .power => "Power"
  | .and => "And"
  | .andAlso => "AndAlso"
  | .or => "Or"
  | .orElse => "OrElse"
  | .exclusiveOr => "ExclusiveOr"
  | .equal => "Equal"
  | .notEqual => "NotEqual"
  | .lessThan => "LessThan"
  | .lessThanOrEqual => "LessThanOrEqual"
  | .greaterThan => "GreaterThan"
  | .greaterThanOrEqual => "GreaterThanOrEqual"
  | .leftShift => "LeftShift"
  | .rightShift => "RightShift"
  | .coalesce => "Coalesce"
  | .arrayIndex => "ArrayIndex"
  | .assign => "Assign"

def symbol : BinaryOp → String
  | .add => "+"
  | .subtract => "-"
  | .multiply => "*"
  | .divide => "/"
  | .modulo => "%"
  | .power => "**"
  | .and => "&"
  | .andAlso => "&&"
  | .or => "|"
  | .orElse => "||"
  | .exclusiveOr => "^"
  | .equal => "=="
  | .notEqual => "!="
  | .lessThan => "<"
  | .lessThanOrEqual => "<="
  | .greaterThan => ">"
  | .greaterThanOrEqual => ">="
  | .leftShift => "<<"
  | .rightShift => ">>"
  | .coalesce => "??"
  | .arrayIndex => "[]"
  | .assign => "="

/-- Whether the result is a truth value whatever the operands are. -/
def isComparison : BinaryOp → Bool
  | .equal | .notEqual | .lessThan | .lessThanOrEqual | .greaterThan | .greaterThanOrEqual => true
  | _ => false

end BinaryOp

inductive UnaryOp where
  | negate | unaryPlus | not | onesComplement | convert | convertChecked | typeAs | quote
  | arrayLength | increment | decrement | throw | unbox | isTrue | isFalse
  deriving DecidableEq, Repr

namespace UnaryOp

def all : List UnaryOp :=
  [.negate, .unaryPlus, .not, .onesComplement, .convert, .convertChecked, .typeAs, .quote,
    .arrayLength, .increment, .decrement, .throw, .unbox, .isTrue, .isFalse]

def name : UnaryOp → String
  | .negate => "Negate"
  | .unaryPlus => "UnaryPlus"
  | .not => "Not"
  | .onesComplement => "OnesComplement"
  | .convert => "Convert"
  | .convertChecked => "ConvertChecked"
  | .typeAs => "TypeAs"
  | .quote => "Quote"
  | .arrayLength => "ArrayLength"
  | .increment => "Increment"
  | .decrement => "Decrement"
  | .throw => "Throw"
  | .unbox => "Unbox"
  | .isTrue => "IsTrue"
  | .isFalse => "IsFalse"

end UnaryOp

/-- Jumps to a target. -/
inductive GotoKind where
  | goto | return | break | continue
  deriving DecidableEq, Repr

namespace GotoKind

def all : List GotoKind := [.goto, .return, .break, .continue]

def name : GotoKind → String
  | .goto => "Goto"
  | .return => "Return"
  | .break => "Break"
  | .continue => "Continue"

def keyword : GotoKind → String
  | .goto => "goto"
  | .return => "return"
  | .break => "break"
  | .continue => "continue"

end GotoKind

/-- Tests of a value against a type. -/
inductive TypeTest where
  | typeIs | typeEqual
  deriving DecidableEq, Repr

namespace TypeTest

def all : List TypeTest := [.typeIs, .typeEqual]

def name : TypeTest → String
  | .typeIs => "TypeIs"
  | .typeEqual => "TypeEqual"

def word : TypeTest → String
  | .typeIs => "Is"
  | .typeEqual => "TypeEqual"

end TypeTest

/-- Whether a new array is given by its elements or by its bounds. -/
inductive NewArrayKind where
  | init | bounds
  deriving DecidableEq, Repr

namespace NewArrayKind

def all : List NewArrayKind := [.init, .bounds]

def name : NewArrayKind → String
  | .init => "Init"
  | .bounds => "Bounds"

end NewArrayKind

end ExprDisplay
