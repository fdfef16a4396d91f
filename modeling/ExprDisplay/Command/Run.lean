import ExprDisplay.Command.Arguments
import ExprDisplay.Format.Catalogue
import ExprDisplay.Gallery
import ExprDisplay.Node.OfExpr
import ExprDisplay.Settings.Loader

/-!
What the commands print.
-/
namespace ExprDisplay.Command

/-- Why a command failed. -/
inductive Error where
  /-- The arguments make no command. -/
  | usage
  | settings (e : SettingsError)
  | unknownSample (name : String)
  | format (e : FormatError)

namespace Error

def message : Error → String
  | .usage => "usage: exprviz show SAMPLE [--format FORMAT] [--config FILE] [--max-depth N]\n" ++
    "       exprviz list-samples\n       exprviz list-formats\n       exprviz --version"
  | .settings e => "Error: " ++ e.message
  | .unknownSample name => "Error: Unknown sample '" ++ name ++ "'"
  | .format e => "Error: " ++ e.message

def exitCode : Error → Nat
  | .usage => 2
  | _ => 1

end Error

/-- The settings of a `show` command: its file, then its depth. -/
def settings (files : Files) (o : ShowOptions) : Except SettingsError Settings := do
  let loader := match o.config with
    | some path => Loader.empty.withFile path
    | none => .empty
  let loader ← match o.maxDepth with
    | some depth => loader.withOverride "build.max_depth" (.integer depth)
    | none => .ok loader
  loader.load files

/-- Draws a sample. Settings are looked at first, then the sample, then the format. -/
def showText (files : Files) (o : ShowOptions) : Except Error String := do
  let s ← (settings files o).mapError .settings
  match Gallery.sample? o.sample with
  | none => .error (.unknownSample o.sample)
  | some e =>
    let tree := Node.ofExpr s.maxDepth none e
    ((Catalogue.builtIn s.drawingOptions).write tree (o.format.getD s.format)).mapError .format

def formatsText : String :=
  "Available formats:\n\n" ++ String.join
    ((Catalogue.builtIn .default).descriptions.map fun (name, description) =>
      "  " ++ name ++ "\n    " ++ description ++ "\n")

def versionText : String := "exprviz 0.1.0\n"

/-- What a command prints. -/
def output (files : Files) : Command → Except Error String
  | .version => .ok versionText
  | .listSamples => .ok (String.join (Gallery.names.map (· ++ "\n")))
  | .listFormats => .ok formatsText
  | .showSample o => showText files o

/-- Runs a command line. -/
def run (files : Files) (args : List String) : Except Error String :=
  match parse? args with
  | some command => output files command
  | none => .error .usage

end ExprDisplay.Command
