import ExprDisplay.Text.Template
import ExprDisplay.Ty.Name

/-!
The parts expressions are made of. A part that holds expressions is written for any
type `ε` of them: what it looks like does not depend on what an expression is.
-/
namespace ExprDisplay

/-- A parameter or variable. -/
structure Param where
  name : Option String
  ty : Ty
  byRef : Bool
  deriving DecidableEq, Repr

namespace Param

def named (ty : Ty) (name : String) : Param := ⟨some name, ty, false⟩

/-- The name, empty when there is none. -/
def nameOrEmpty (p : Param) : String := p.name.getD ""

def text (p : Param) : String := p.name.getD "Param_0"

end Param

/-- A jump target. -/
structure Target where
  name : Option String
  ty : Ty
  deriving DecidableEq, Repr

def Target.text (t : Target) : String := t.name.getD "UnnamedLabel"

/-- A field or property. -/
structure Member where
  declaringType : Ty
  name : String
  deriving DecidableEq, Repr

structure Method where
  declaringType : Ty
  name : String
  returnType : Ty
  deriving DecidableEq, Repr

/-- A 128-bit identifier. -/
abbrev Guid := BitVec 128

namespace Guid

/-- Lower-case hexadecimal digits, as many as asked for. -/
def hexDigits (width n : Nat) : List Char :=
  let digits := Nat.toDigits 16 n
  List.replicate (width - digits.length) '0' ++ digits

/-- Groups of 8, 4, 4, 4 and 12 digits. -/
def text (g : Guid) : String :=
  let ds := hexDigits 32 g.toNat
  let group (start width : Nat) := String.ofList ((ds.drop start).take width)
  group 0 8 ++ "-" ++ group 8 4 ++ "-" ++ group 12 4 ++ "-" ++ group 16 4 ++ "-" ++ group 20 12

end Guid

/-- A source document and the identifiers of its language, vendor and type. -/
structure Document where
  fileName : String
  language : Guid
  languageVendor : Guid
  documentType : Guid
  deriving DecidableEq, Repr

def Document.ofFile (fileName : String) : Document := ⟨fileName, 0, 0, 0⟩

/-- A stretch of a source document. -/
structure Span where
  startLine : Nat
  startColumn : Nat
  endLine : Nat
  endColumn : Nat
  deriving DecidableEq, Repr

variable {ε : Type}

/-- A constructor call. The argument at a position sets the member at that position,
where there is one. -/
structure Construction (ε : Type) where
  ty : Ty
  arguments : List ε
  members : Option (List String)
  deriving DecidableEq, Repr

namespace Construction

/-- Pairs arguments with members by position. -/
def pair : List ε → List String → List (Option String × ε)
  | [], _ => []
  | e :: es, [] => (none, e) :: pair es []
  | e :: es, m :: ms => (some m, e) :: pair es ms

/-- Arguments with the members they set. -/
def labelled (c : Construction ε) : List (Option String × ε) :=
  pair c.arguments (c.members.getD [])

def argument : Option String × ε → Template ε
  | (some member, e) => [.text (member ++ " = "), .hole e]
  | (none, e) => [.hole e]

def template (c : Construction ε) : Template ε :=
  .text ("new " ++ c.ty.runtimeName ++ "(") :: Template.separated (c.labelled.map argument) ++
    [.text ")"]

end Construction

/-- An entry of a collection initializer. -/
structure ElementInit (ε : Type) where
  addMethod : String
  arguments : List ε
  deriving DecidableEq, Repr

def ElementInit.template (i : ElementInit ε) : Template ε :=
  .text (i.addMethod ++ "(") :: Template.list i.arguments ++ [.text ")"]

/-- Sets a member of a new object: to a value, by adding to a collection, or by
setting members of it in turn. -/
inductive Binding (ε : Type) where
  | assign (member : String) (value : ε)
  | list (member : String) (initializers : List (ElementInit ε))
  | nested (member : String) (bindings : List (Binding ε))

namespace Binding

def member : Binding ε → String
  | .assign member _ => member
  | .list member _ => member
  | .nested member _ => member

mutual

def template : Binding ε → Template ε
  | .assign member value => [.text (member ++ " = "), .hole value]
  | .list member initializers =>
    .text (member ++ " = \x7b") :: Template.separated (initializers.map ElementInit.template) ++
      [.text "\x7d"]
  | .nested member bindings =>
    .text (member ++ " = \x7b") :: Template.separated (templates bindings) ++ [.text "\x7d"]

def templates : List (Binding ε) → List (Template ε)
  | [] => []
  | b :: bs => template b :: templates bs

end

end Binding

/-- A case of a switch. -/
structure Case (ε : Type) where
  testValues : List ε
  body : ε
  deriving DecidableEq, Repr

def Case.template (c : Case ε) : Template ε :=
  .text "case (" :: Template.list c.testValues ++ [.text "): ..."]

/-- A handler of a try. -/
structure Handler (ε : Type) where
  test : Ty
  caught : Option Param
  filter : Option ε
  body : ε
  deriving DecidableEq, Repr

/-- The text of a handler, which shows none of its expressions. -/
def Handler.text (h : Handler ε) : String :=
  match h.caught with
  | some v => "catch (" ++ h.test.runtimeName ++ " " ++ v.text ++ ") \x7b ... \x7d"
  | none => "catch (" ++ h.test.runtimeName ++ ") \x7b ... \x7d"

end ExprDisplay
