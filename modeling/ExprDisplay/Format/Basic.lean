import ExprDisplay.Node.Drawing
import ExprDisplay.Node.Json
import ExprDisplay.Node.Outline

/-!
Output formats of display trees.
-/
namespace ExprDisplay

/-- Why a tree could not be written. -/
inductive FormatError where
  | notFound (name : String)
  | failed (message : String)
  deriving DecidableEq, Repr

def FormatError.message : FormatError → String
  | .notFound name => "Format '" ++ name ++ "' not found"
  | .failed message => "Serialization error: " ++ message

/-- A named way of writing trees. -/
structure Formatter where
  name : String
  description : String
  write : Node → Except FormatError String

namespace Formatter

def drawing (options : Node.DrawingOptions) : Formatter where
  name := "treeviz"
  description := "Visual tree representation with connectors and Unicode icons"
  write n := .ok (n.drawing options)

def outline : Formatter where
  name := "labels"
  description := "Indented node labels, two spaces per level"
  write n := .ok n.outline

def json : Formatter where
  name := "json"
  description := "Display tree as pretty-printed JSON"
  write n := .ok n.toJson.pretty

end Formatter

end ExprDisplay
