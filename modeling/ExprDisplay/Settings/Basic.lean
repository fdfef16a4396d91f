import ExprDisplay.Decimal.Reading
import ExprDisplay.Node.Drawing
import ExprDisplay.Settings.Error

/-!
The settings of the program and how they are taken from layered values. Values are
converted where they can be: numbers and words to truth values, words to numbers,
scalars to text.
-/
namespace ExprDisplay

structure Settings where
  maxDepth : Nat
  maxLabelWidth : Nat
  showLiteral : Bool
  format : String
  deriving DecidableEq, Repr

namespace Settings

def drawingOptions (s : Settings) : Node.DrawingOptions := ⟨s.maxLabelWidth, s.showLiteral⟩

/-- The built-in settings, as the first layer. -/
def builtIn : Setting :=
  let scalar (content : Content Setting) : Setting := ⟨none, content⟩
  let table (entries : List (String × Setting)) : Setting := ⟨none, .table entries⟩
  table
    [("build", table [("max_depth", scalar (.integer 256))]),
      ("treeviz", table
        [("max_label_width", scalar (.integer 0)), ("show_literal", scalar (.boolean false))]),
      ("output", table [("format", scalar (.string "treeviz"))])]

abbrev Result (α : Type) := Except SettingsError α

/-! ### Values -/

/-- The greatest count. -/
def greatestCount : Nat := 0xffffffffffffffff

/-- Words that stand for a truth value, in lower case. -/
def truth? (word : String) : Option Bool :=
  if word = "true" ∨ word = "on" ∨ word = "yes" then some true
  else if word = "false" ∨ word = "off" ∨ word = "no" then some false
  else none

/-- A count in decimal digits, after an optional plus sign. -/
def digits? (s : String) : Option Nat :=
  let digits := match s.toList with
    | '+' :: rest => rest
    | cs => cs
  if digits.isEmpty || !digits.all Char.isDigit then none
  else
    let n := Decimal.digitsValue digits
    if n ≤ greatestCount then some n else none

/-- A count. A float is rounded, halves away from zero, and kept in range. -/
def count (key : String) (s : Setting) : Result Nat :=
  let refuse (expected : String) : Result Nat := .error (.badValue s.content expected key s.file)
  match s.content with
  | .integer i =>
    if i < 0 then refuse "an unsigned 64 bit or less integer" else .ok i.toNat
  | .boolean b => .ok b.toNat
  | .float x => .ok x.round.toUInt64.toNat
  | .string text =>
    match truth? (Text.lowerCase text) with
    | some b => .ok b.toNat
    | none =>
      match digits? text with
      | some n => .ok n
      | none => refuse "an integer"
  | _ => refuse "an integer"

/-- A switch. A number is on unless it is zero. -/
def switch (key : String) (s : Setting) : Result Bool :=
  let refuse (found : Content Setting) : Result Bool :=
    .error (.badValue found "a boolean" key s.file)
  match s.content with
  | .boolean b => .ok b
  | .integer i => .ok (i != 0)
  | .float x => .ok (x != 0)
  | .string text =>
    let word := Text.lowerCase text
    if word = "1" then .ok true
    else if word = "0" then .ok false
    else match truth? word with
      | some b => .ok b
      | none => refuse (.string word)
  | content => refuse content

/-- A text. Scalars are written out. -/
def text (key : String) (s : Setting) : Result String :=
  match s.content with
  | .string text => .ok text
  | .boolean b => .ok (toString b)
  | .integer i => .ok (toString i)
  | .float x => .ok (Decimal.doubleText x)
  | content => .error (.badValue content "a string" key s.file)

/-! ### Sections -/

/-- A section of the settings: a table, or a list that gives the fields by position. -/
structure Section where
  name : String
  /-- What the section is called where it is missed. -/
  expected : String
  size : Nat
  value : Setting

namespace Section

/-- Finds a section; what is neither a table nor a list is none. -/
def find (root : Setting) (name expected : String) (size : Nat) : Result Section :=
  let value := (root.find? name).getD .nil
  match value.content with
  | .table _ | .list _ => .ok ⟨name, expected, size, value⟩
  | content => .error (.badSection (.notTable content expected))

/-- The value of a field and the key that leads to it. -/
def entry? (s : Section) (position : Nat) (field : String) : Option (String × Setting) :=
  match s.value.content with
  | .list items => items[position]?.map (s.name ++ "[" ++ toString position ++ "]", ·)
  | _ => (s.value.find? field).map (s.name ++ "." ++ field, ·)

/-- Reads a field that may be absent. -/
def read? {α : Type} (s : Section) (position : Nat) (field : String)
    (decode : String → Setting → Result α) : Result (Option α) :=
  match s.entry? position field with
  | some (key, v) => (decode key v).map some
  | none => .ok none

/-- Insists on a field. -/
def require {α : Type} (s : Section) (field : String) : Option α → Result α
  | some a => .ok a
  | none => match s.value.content with
    | .list items => .error (.badSection (.tooFewItems items.length s.expected s.size))
    | _ => .error (.badSection (.missingField field))

end Section

/-- Takes the settings from the layered values. All fields of a section are read before
one is missed. -/
def ofSetting (root : Setting) : Result Settings := do
  let build ← Section.find root "build" "struct BuildConfig" 1
  let maxDepth ← build.require "max_depth" (← build.read? 0 "max_depth" count)
  let drawing ← Section.find root "treeviz" "struct TreevizConfig" 2
  let width ← drawing.read? 0 "max_label_width" count
  let literal ← drawing.read? 1 "show_literal" switch
  let maxLabelWidth ← drawing.require "max_label_width" width
  let showLiteral ← drawing.require "show_literal" literal
  let output ← Section.find root "output" "struct OutputConfig" 1
  let format ← output.require "format" (← output.read? 0 "format" text)
  return ⟨maxDepth, maxLabelWidth, showLiteral, format⟩

end Settings

end ExprDisplay
