import ExprDisplay.Decimal.Reading
import ExprDisplay.Settings.Value

/-!
Key paths such as `build.max_depth` or `list[0].name`, and setting what they lead to.
-/
namespace ExprDisplay

inductive KeyStep where
  | child (name : String)
  | item (index : Int)
  deriving DecidableEq, Repr

/-- A name and the steps from there. -/
structure KeyPath where
  name : String
  steps : List KeyStep
  deriving DecidableEq, Repr

namespace KeyPath

/-- Names are made of letters, digits, spaces, underscores and dashes. -/
def isNameChar (c : Char) : Bool := c.isAlphanum || c == ' ' || c == '_' || c == '-'

def name? (cs : List Char) : Option (String × List Char) :=
  match cs.takeWhile isNameChar with
  | [] => none
  | name => some (String.ofList name, cs.dropWhile isNameChar)

def isBlank (c : Char) : Bool := c == ' ' || c == '\t'

/-- An index and its closing bracket, blanks around it passed over. -/
def index? (cs : List Char) : Option (Int × List Char) :=
  let cs := cs.dropWhile isBlank
  let (negative, cs) := match cs with
    | '-' :: rest => (true, rest)
    | _ => (false, cs)
  match cs.takeWhile Char.isDigit with
  | [] => none
  | digits =>
    let magnitude := Decimal.digitsValue digits
    let index : Int := if negative then -magnitude else magnitude
    match (cs.dropWhile Char.isDigit).dropWhile isBlank with
    | ']' :: rest => if Decimal.fitsWord index then some (index, rest) else none
    | _ => none

/-- At most `count` steps, up to the end of the text. -/
def steps? : (count : Nat) → List Char → Option (List KeyStep)
  | _, [] => some []
  | 0, _ => none
  | count + 1, '.' :: rest =>
    match name? rest with
    | some (name, rest) => (steps? count rest).map (.child name :: ·)
    | none => none
  | count + 1, '[' :: rest =>
    match index? rest with
    | some (index, rest) => (steps? count rest).map (.item index :: ·)
    | none => none
  | _ + 1, _ :: _ => none

def parse? (text : String) : Option KeyPath :=
  match name? text.toList with
  | some (name, rest) => (steps? rest.length rest).map (⟨name, ·⟩)
  | none => none

/-- Lays a value over what a path leads to. What stands on the way and is not what the
next step needs is replaced by an empty table or list. -/
def setFrom (v : Setting) : List KeyStep → Setting → Setting
  | [], _ => v
  | [.child name], root => v.lay name root
  | .child name :: steps, root =>
    root.put name (setFrom v steps ((root.find? name).getD .nil))
  | .item index :: steps, root => root.modifyItem index (setFrom v steps)

def set (p : KeyPath) (v : Setting) (root : Setting) : Setting :=
  setFrom v (.child p.name :: p.steps) root

end KeyPath

namespace Setting

/-- Lays the entries of a source over the settings so far. A key of the source that
reads as a key path is one. -/
def laySource (root : Setting) : List (String × Setting) → Setting
  | [] => root
  | (key, v) :: rest =>
    let laid := match KeyPath.parse? key with
      | some path => path.set v root
      | none => v.lay key root
    laySource laid rest

end Setting

end ExprDisplay
