import ExprDisplay.Json.Writer
import ExprDisplay.Node.Basic

/-!
Display trees as JSON. Absent kinds and literals have no field; a reader also takes
null for an absent one and a missing list of children for an empty one. It refuses a
field that is given twice.
-/
namespace ExprDisplay.Node

/-- A field for a present value only. -/
def optionalField (name : String) : Option String → List (String × Json)
  | some s => [(name, .string s)]
  | none => []

mutual

def toJson : Node → Json
  | ⟨kind, label, literal, children⟩ =>
    .object (optionalField "node_type" (kind.map Kind.name) ++ [("label", .string label)] ++
      optionalField "literal_text" literal ++ [("children", .array (forestToJson children))])

def forestToJson : List Node → List Json
  | [] => []
  | n :: ns => toJson n :: forestToJson ns

end

/-- The fields found so far while an object is read. -/
structure Draft where
  kind : Option (Option Kind)
  label : Option String
  literal : Option (Option String)
  children : Option (List Node)

def Draft.empty : Draft := ⟨none, none, none, none⟩

/-- A node needs a label. -/
def Draft.node? (d : Draft) : Option Node :=
  d.label.map fun label => ⟨d.kind.join, label, d.literal.join, d.children.getD []⟩

/-- What is read for a field, unless the field was found before. -/
def once? {α : Type} : (found read : Option α) → Option (Option α)
  | none, some value => some (some value)
  | _, _ => none

def kindOfJson? : Json → Option (Option Kind)
  | .null => some none
  | .string name => (Kind.ofName? name).map some
  | _ => none

def literalOfJson? : Json → Option (Option String)
  | .null => some none
  | .string s => some (some s)
  | _ => none

def labelOfJson? : Json → Option String
  | .string s => some s
  | _ => none

mutual

/-- Reads a node; unknown fields are passed over. -/
def ofJson? : Json → Option Node
  | .object fields => (ofFields? fields).bind Draft.node?
  | _ => none

def ofFields? : List (String × Json) → Option Draft
  | [] => some .empty
  | (name, value) :: fields =>
    match ofFields? fields with
    | none => none
    | some d =>
      if name = "children" then
        (once? d.children (ofItems? value)).map fun children => { d with children }
      else if name = "label" then
        (once? d.label (labelOfJson? value)).map fun label => { d with label }
      else if name = "node_type" then
        (once? d.kind (kindOfJson? value)).map fun kind => { d with kind }
      else if name = "literal_text" then
        (once? d.literal (literalOfJson? value)).map fun literal => { d with literal }
      else some d

def ofItems? : Json → Option (List Node)
  | .array items => ofList? items
  | _ => none

def ofList? : List Json → Option (List Node)
  | [] => some []
  | item :: items =>
    match ofJson? item, ofList? items with
    | some n, some ns => some (n :: ns)
    | _, _ => none

end

end ExprDisplay.Node
