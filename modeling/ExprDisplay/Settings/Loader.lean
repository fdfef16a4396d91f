import ExprDisplay.Settings.Basic
import ExprDisplay.Settings.KeyPath
import ExprDisplay.Toml.Reader

/-!
Loading settings: files are laid over the built-in settings in order, single values over
all files.
-/
namespace ExprDisplay

/-- The texts of the files that can be read, by name. -/
abbrev Files := String → Option String

/-- A file to load; one that is not required may be missing. -/
structure Source where
  path : String
  required : Bool
  deriving DecidableEq, Repr

structure Loader where
  sources : List Source
  overrides : List (KeyPath × Setting)

namespace Loader

def empty : Loader := ⟨[], []⟩

def withFile (l : Loader) (path : String) : Loader :=
  { l with sources := l.sources ++ [⟨path, true⟩] }

def withOptionalFile (l : Loader) (path : String) : Loader :=
  { l with sources := l.sources ++ [⟨path, false⟩] }

/-- Replaces the value of a path, or adds the path. -/
def replace (p : KeyPath) (v : Setting) : List (KeyPath × Setting) → List (KeyPath × Setting)
  | [] => [(p, v)]
  | (q, w) :: rest => if q = p then (p, v) :: rest else (q, w) :: replace p v rest

/-- Sets a single value, which needs a key that reads as a path. -/
def withOverride (l : Loader) (key : String) (content : Content Setting) :
    Except SettingsError Loader :=
  match KeyPath.parse? key with
  | some p => .ok { l with overrides := replace p ⟨none, content⟩ l.overrides }
  | none => .error (.malformedKey key)

/-- A path without the components that stay where they are. -/
def plainPath (path : String) : String :=
  match path.splitOn "/" with
  | [] => ""
  | first :: rest =>
    let moves (component : String) : Bool := component != "" && component != "."
    let start := if first == "." then [] else if first == "" && rest.isEmpty then [] else [first]
    "/".intercalate (start ++ rest.filter moves)

/-- The names a path may mean: as it is, unless it asks for a directory, and then with
the extension of the format. -/
def candidates (path : String) : List String :=
  let plain := plainPath path
  let last := (path.splitOn "/").getLastD ""
  if plain = "" ∨ last = ".." then []
  else if last = "" ∨ last = "." then [plain ++ ".toml"]
  else [plain, plain ++ ".toml"]

/-- The name and the text of the file that a path means. -/
def find? (files : Files) (path : String) : Option (String × String) :=
  (candidates path).findSome? fun name => (files name).map (name, ·)

/-- The entries of a source. -/
def read (files : Files) (s : Source) : Except SettingsError (List (String × Setting)) :=
  match find? files s.path with
  | none => if s.required then .error (.fileNotFound s.path) else .ok []
  | some (name, text) =>
    match Toml.parse? text with
    | some v => .ok (Setting.ofToml (some name) v).entries
    | none => .error (.malformedFile name)

/-- Lays all sources over the settings so far. -/
def layFiles (files : Files) (root : Setting) : List Source → Except SettingsError Setting
  | [] => .ok root
  | s :: rest => do layFiles files (root.laySource (← read files s)) rest

/-- Loads the settings. -/
def load (l : Loader) (files : Files) : Except SettingsError Settings := do
  let root ← layFiles files Settings.builtIn l.sources
  Settings.ofSetting (l.overrides.foldl (fun root (p, v) => p.set v root) root)

end Loader

end ExprDisplay
