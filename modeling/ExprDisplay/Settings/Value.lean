import ExprDisplay.Text.LowerCase
import ExprDisplay.Toml.Basic

/-!
Settings as they are layered: values with the file they came from, if any. Keys are
compared without regard to case.
-/
namespace ExprDisplay

/-- The content of a setting over settings `σ` inside it. -/
inductive Content (σ : Type) where
  | nil
  | boolean (b : Bool)
  | integer (i : Int)
  | float (x : Float)
  | string (s : String)
  | list (items : List σ)
  | table (entries : List (String × σ))

structure Setting where
  /-- The file a value was read from. -/
  file : Option String
  content : Content Setting

namespace Setting

def nil : Setting := ⟨none, .nil⟩

def emptyTable : Setting := ⟨none, .table []⟩

mutual

/-- A value read from a file, or built in. A date or a time is taken as text. -/
def ofToml (file : Option String) : Toml → Setting
  | .integer i => ⟨file, .integer i⟩
  | .float x => ⟨file, .float x⟩
  | .boolean b => ⟨file, .boolean b⟩
  | .string s => ⟨file, .string s⟩
  | .moment m => ⟨file, .string m.text⟩
  | .array items => ⟨file, .list (ofItems file items)⟩
  | .table entries => ⟨file, .table (ofEntries file entries)⟩

def ofItems (file : Option String) : List Toml → List Setting
  | [] => []
  | item :: items => ofToml file item :: ofItems file items

def ofEntries (file : Option String) : List (String × Toml) → List (String × Setting)
  | [] => []
  | (key, v) :: entries => (key, ofToml file v) :: ofEntries file entries

end

/-- The entries of a table; what is no table has none. -/
def entries (s : Setting) : List (String × Setting) :=
  match s.content with
  | .table entries => entries
  | _ => []

def find? (s : Setting) (key : String) : Option Setting :=
  s.entries.lookup (Text.lowerCase key)

/-- Replaces the entry of a key, or adds one at the end. -/
def replace (key : String) (v : Setting) : List (String × Setting) → List (String × Setting)
  | [] => [(key, v)]
  | (k, w) :: rest => if k = key then (k, v) :: rest else (k, w) :: replace key v rest

/-- Puts a value under a key. What is no table becomes one. -/
def put (s : Setting) (key : String) (v : Setting) : Setting :=
  let file := match s.content with
    | .table _ => s.file
    | _ => none
  ⟨file, .table (replace (Text.lowerCase key) v s.entries)⟩

mutual

/-- Lays a value over what stands under a key. The entries of a table are laid over
one by one, so a table without entries changes nothing that is there. -/
def lay : (v : Setting) → (key : String) → (root : Setting) → Setting
  | ⟨file, content⟩, key, root =>
    match content with
    | .table entries => root.put key (layAll entries ((root.find? key).getD emptyTable))
    | scalar => root.put key ⟨file, scalar⟩

/-- Lays entries over a table, one after the other. -/
def layAll : List (String × Setting) → (root : Setting) → Setting
  | [], root => root
  | (key, v) :: rest, root => layAll rest (lay v key root)

end

/-- The items of a list; what is no list has none. -/
def items (s : Setting) : List Setting :=
  match s.content with
  | .list items => items
  | _ => []

/-- Changes the item at an index; a negative index counts from the end. What is no list
becomes one, and a list that the index lies outside of is filled up to it. -/
def modifyItem (s : Setting) (index : Int) (change : Setting → Setting) : Setting :=
  let file := match s.content with
    | .list _ => s.file
    | _ => none
  let size := s.items.length
  let place : Int := if index < 0 then size + index else index
  let before := List.replicate (-place).toNat nil
  let after := List.replicate (place + 1 - size).toNat nil
  ⟨file, .list ((before ++ s.items ++ after).modify place.toNat change)⟩

end Setting

end ExprDisplay
