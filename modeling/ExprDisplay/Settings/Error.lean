import ExprDisplay.Decimal.Shortest
import ExprDisplay.Settings.Value
import ExprDisplay.Text.Quoted

/-!
What can be wrong with settings.
-/
namespace ExprDisplay

/-- What a section of the settings was found to be, or to lack. -/
inductive SectionFault where
  | notTable (found : Content Setting) (expected : String)
  | missingField (name : String)
  | tooFewItems (found : Nat) (expected : String) (fields : Nat)

inductive SettingsError where
  | fileNotFound (path : String)
  | malformedFile (name : String)
  | malformedKey (key : String)
  | badSection (fault : SectionFault)
  /-- A value that cannot be taken for what is expected. -/
  | badValue (found : Content Setting) (expected key : String) (file : Option String)

namespace Content

/-- A float with at least one digit after its point. -/
def pointedText (x : Float) : String :=
  let text := Decimal.doubleText x
  if x.isFinite && !text.toList.contains '.' then text ++ ".0" else text

/-- The content of a section, for a message. -/
def describe : Content Setting → String
  | .nil => "unit value"
  | .boolean b => "boolean \x60" ++ toString b ++ "\x60"
  | .integer i => "integer \x60" ++ toString i ++ "\x60"
  | .float x => "floating point \x60" ++ pointedText x ++ "\x60"
  | .string s => "string " ++ Text.quoted s
  | .list _ => "sequence"
  | .table _ => "map"

/-- The content of a value, for a message; only integers are told apart by their width. -/
def describeValue : Content Setting → String
  | .integer i => "64-bit integer \x60" ++ toString i ++ "\x60"
  | content => content.describe

end Content

def SectionFault.message : SectionFault → String
  | .notTable found expected => "invalid type: " ++ found.describe ++ ", expected " ++ expected
  | .missingField name => "missing field \x60" ++ name ++ "\x60"
  | .tooFewItems found expected fields =>
    "invalid length " ++ toString found ++ ", expected " ++ expected ++ " with " ++
      toString fields ++ (if fields = 1 then " element" else " elements")

def SettingsError.message : SettingsError → String
  | .fileNotFound path => "configuration file \"" ++ path ++ "\" not found"
  | .malformedFile name => "malformed configuration file \"" ++ name ++ "\""
  | .malformedKey key => "malformed key " ++ Text.quoted key
  | .badSection fault => fault.message
  | .badValue found expected key file =>
    "invalid type: " ++ found.describeValue ++ ", expected " ++ expected ++ " for key \x60" ++ key ++
      "\x60" ++ (match file with
        | some name => " in " ++ name
        | none => "")

end ExprDisplay
