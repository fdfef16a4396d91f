import ExprDisplay.Toml.Moment

/-!
TOML values and the tables that a document defines. A table is defined once: by its
header, by an inline value, or by dotted keys; a table that only stands on the way to
another may still be given its header.
-/
namespace ExprDisplay

inductive Toml where
  | integer (i : Int)
  | float (x : Float)
  | boolean (b : Bool)
  | string (s : String)
  | moment (m : Toml.Moment)
  | array (items : List Toml)
  | table (entries : List (String × Toml))

namespace Toml

/-- Why a table exists. -/
inductive Origin where
  /-- It has a header. -/
  | header
  /-- It stands on the way to a table with a header. -/
  | passage
  /-- It is made by dotted keys. -/
  | dotted
  deriving DecidableEq, Repr

mutual

/-- A table while a document is read. -/
inductive Draft where
  | mk (origin : Origin) (entries : List (String × Item))

inductive Item where
  | value (v : Toml)
  | table (t : Draft)
  /-- Tables under one repeated header, last first. -/
  | tables (last : Draft) (earlier : List Draft)

end

namespace Draft

def origin : Draft → Origin
  | .mk origin _ => origin

def entries : Draft → List (String × Item)
  | .mk _ entries => entries

def empty (origin : Origin) : Draft := .mk origin []

def find? (t : Draft) (key : String) : Option Item := t.entries.lookup key

/-- Replaces the entry of that key, or adds one. -/
def put (t : Draft) (key : String) (item : Item) : Draft :=
  .mk t.origin (go t.entries)
where
  go : List (String × Item) → List (String × Item)
    | [] => [(key, item)]
    | (k, i) :: rest => if k = key then (key, item) :: rest else (k, i) :: go rest

/-- Adds a value under a key path. Each table on the way was made by dotted keys or is
made now; `top` says that no table has been passed yet. -/
def addPair (t : Draft) (top : Bool) : (path : List String) → Toml → Option Draft
  | [], _ => none
  | [key], v =>
    if (t.origin == .dotted) == top || (t.find? key).isSome then none
    else some (t.put key (.value v))
  | key :: path, v =>
    match t.find? key with
    | none => (addPair (empty .dotted) false path v).map fun c => t.put key (.table c)
    | some (.value _) => none
    | some (.table c) =>
      if c.origin == .header then none
      else (addPair c false path v).map fun c => t.put key (.table c)
    | some (.tables last earlier) =>
      (addPair last false path v).map fun c => t.put key (.tables c earlier)

def addPairs (t : Draft) : List (List String × Toml) → Option Draft
  | [] => some t
  | (path, v) :: rest => (t.addPair true path v).bind fun t => t.addPairs rest

/-- Gives the table at a path its header and its pairs; with `repeated`, a further table
at that path. -/
def addSection (t : Draft) (repeated : Bool) (pairs : List (List String × Toml)) :
    (path : List String) → Option Draft
  | [] => none
  | [key] =>
    let fresh := (empty .header).addPairs pairs
    match repeated, t.find? key with
    | false, none => fresh.map fun c => t.put key (.table c)
    | false, some (.table c) =>
      if c.origin == .passage then
        ((mk .header c.entries).addPairs pairs).map fun c => t.put key (.table c)
      else none
    | true, none => fresh.map fun c => t.put key (.tables c [])
    | true, some (.tables last earlier) => fresh.map fun c => t.put key (.tables c (last :: earlier))
    | _, some _ => none
  | key :: path =>
    match t.find? key with
    | none =>
      (addSection (empty .passage) repeated pairs path).map fun c => t.put key (.table c)
    | some (.value _) => none
    | some (.table c) => (addSection c repeated pairs path).map fun c => t.put key (.table c)
    | some (.tables last earlier) =>
      (addSection last repeated pairs path).map fun c => t.put key (.tables c earlier)

mutual

/-- The finished table. -/
def finish : Draft → Toml
  | .mk _ entries => .table (finishEntries entries)

def finishEntries : List (String × Item) → List (String × Toml)
  | [] => []
  | (key, item) :: rest => (key, finishItem item) :: finishEntries rest

def finishItem : Item → Toml
  | .value v => v
  | .table t => finish t
  | .tables last earlier => .array ((finish last :: finishAll earlier).reverse)

def finishAll : List Draft → List Toml
  | [] => []
  | t :: ts => finish t :: finishAll ts

end

end Draft

/-- A header and the pairs below it. -/
structure Section where
  path : List String
  repeated : Bool
  pairs : List (List String × Toml)

/-- The table of a document: its first pairs, then its sections. -/
def ofSections (pairs : List (List String × Toml)) (sections : List Section) : Option Toml :=
  let root := (Draft.empty .header).addPairs pairs
  (sections.foldl (fun t s => t.bind fun t => t.addSection s.repeated s.pairs s.path) root).map
    Draft.finish

end Toml

end ExprDisplay
