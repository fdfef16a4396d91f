import ExprDisplay.Format.Basic

/-!
A catalogue of formats by name. Of two formatters with one name the later counts;
names are listed in the order of their code points.
-/
namespace ExprDisplay

/-- Formatters in the order of their names. -/
structure Catalogue where
  formatters : List Formatter

namespace Catalogue

def empty : Catalogue := ⟨[]⟩

/-- Puts a formatter in its place, over one of the same name. -/
def insert (f : Formatter) : List Formatter → List Formatter
  | [] => [f]
  | g :: rest =>
    if f.name = g.name then f :: rest
    else if f.name < g.name then f :: g :: rest
    else g :: insert f rest

def register (c : Catalogue) (f : Formatter) : Catalogue := ⟨insert f c.formatters⟩

def get? (c : Catalogue) (name : String) : Option Formatter :=
  c.formatters.find? (·.name == name)

def has (c : Catalogue) (name : String) : Bool := (c.get? name).isSome

/-- All names, in order. -/
def names (c : Catalogue) : List String := c.formatters.map Formatter.name

/-- All names with their descriptions, in order. -/
def descriptions (c : Catalogue) : List (String × String) :=
  c.names.map fun name => (name, ((c.get? name).map Formatter.description).getD "")

/-- Writes a tree in the named format. -/
def write (c : Catalogue) (n : Node) (name : String) : Except FormatError String :=
  match c.get? name with
  | some f => f.write n
  | none => .error (.notFound name)

/-- The built-in formats; drawings are made with the given options. -/
def builtIn (options : Node.DrawingOptions) : Catalogue :=
  ((empty.register (.drawing options)).register .outline).register .json

end Catalogue

end ExprDisplay
