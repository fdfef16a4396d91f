import ExprDisplay.Decimal.Reading

/-!
The command line. An option takes a value, attached to it or in the next argument; after
`--` there are no options. Whatever does not fit is refused as a whole.
-/
namespace ExprDisplay

structure ShowOptions where
  sample : String
  format : Option String
  config : Option String
  maxDepth : Option Nat
  deriving DecidableEq, Repr

inductive Command where
  | version
  | listSamples
  | listFormats
  | showSample (options : ShowOptions)
  deriving DecidableEq, Repr

namespace Command

/-- What has been read of a `show` command. -/
structure Draft where
  sample : Option String
  format : Option String
  config : Option String
  maxDepth : Option Nat

inductive Flag where
  | format | config | maxDepth

def Flag.ofLong? (name : List Char) : Option Flag :=
  if name = "format".toList then some .format
  else if name = "config".toList then some .config
  else if name = "max-depth".toList then some .maxDepth
  else none

def Flag.ofShort? (c : Char) : Option Flag :=
  if c = 'f' then some .format else if c = 'c' then some .config else none

/-- A depth: at least one, and at most the greatest signed 64-bit integer. -/
def depth? (s : String) : Option Nat :=
  let digits := match s.toList with
    | '+' :: rest => rest
    | cs => cs
  if digits.isEmpty || !digits.all Char.isDigit then none
  else
    let n := Decimal.digitsValue digits
    if 1 ≤ n && Decimal.fitsWord n then some n else none

namespace Draft

def empty : Draft := ⟨none, none, none, none⟩

/-- Gives an option its value; no option is given twice. -/
def set? (d : Draft) (flag : Flag) (value : String) : Option Draft :=
  match flag with
  | .format => if d.format.isSome then none else some { d with format := some value }
  | .config => if d.config.isSome then none else some { d with config := some value }
  | .maxDepth =>
    if d.maxDepth.isSome then none
    else (depth? value).map fun n => { d with maxDepth := some n }

/-- Takes the name of the sample; there is one. -/
def name? (d : Draft) (name : String) : Option Draft :=
  if d.sample.isSome then none else some { d with sample := some name }

def finish? (d : Draft) : Option ShowOptions :=
  d.sample.map fun sample => ⟨sample, d.format, d.config, d.maxDepth⟩

end Draft

/-- An option with the value attached to it, if one is. -/
inductive Argument where
  | word (s : String)
  | option (flag : Flag) (value : Option String)
  | endOfOptions
  | unknown

/-- Splits at the first equals sign. -/
def splitValue (cs : List Char) : List Char × Option String :=
  match cs.dropWhile (· != '=') with
  | '=' :: value => (cs.takeWhile (· != '='), some (String.ofList value))
  | _ => (cs, none)

def Argument.ofString (s : String) : Argument :=
  match s.toList with
  | ['-', '-'] => .endOfOptions
  | '-' :: '-' :: rest =>
    let (name, value) := splitValue rest
    match Flag.ofLong? name with
    | some flag => .option flag value
    | none => .unknown
  | ['-'] => .word s
  | '-' :: c :: rest =>
    match Flag.ofShort? c, rest with
    | some flag, [] => .option flag none
    | some flag, '=' :: value => .option flag (some (String.ofList value))
    | some flag, value => .option flag (some (String.ofList value))
    | none, _ => .unknown
  | _ => .word s

/-- Words only. -/
def words? (d : Draft) : List String → Option Draft
  | [] => some d
  | s :: rest => (d.name? s).bind fun d => words? d rest

/-- Reads the arguments of `show`; `pending` is an option that still wants its value. -/
def showArguments? (d : Draft) (pending : Option Flag) : List String → Option Draft
  | [] => if pending.isSome then none else some d
  | s :: rest =>
    match pending, Argument.ofString s with
    | some flag, .word value => (d.set? flag value).bind fun d => showArguments? d none rest
    | some _, _ => none
    | none, .word name => (d.name? name).bind fun d => showArguments? d none rest
    | none, .option flag (some value) =>
      (d.set? flag value).bind fun d => showArguments? d none rest
    | none, .option flag none => showArguments? d (some flag) rest
    | none, .endOfOptions => words? d rest
    | none, .unknown => none

/-- Whether no argument is left. -/
def noArguments : List String → Bool
  | [] => true
  | ["--"] => true
  | _ => false

/-- Reads a command line. -/
def parse? : List String → Option Command
  | "show" :: rest =>
    ((showArguments? .empty none rest).bind Draft.finish?).map .showSample
  | "list-samples" :: rest => if noArguments rest then some .listSamples else none
  | "list-formats" :: rest => if noArguments rest then some .listFormats else none
  | s :: _ =>
    if s = "--version" || "-V".toList.isPrefixOf s.toList then some .version else none
  | [] => none

end Command

end ExprDisplay
