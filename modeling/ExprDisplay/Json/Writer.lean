import ExprDisplay.Json.Basic

/-!
JSON text in two forms: compact, without blanks, and pretty, with an item a line and
two spaces a level.
-/
namespace ExprDisplay.Json

/-- A digit below sixteen, in lower case. -/
def hexDigit (n : Nat) : Char := if n < 10 then Char.ofNat (48 + n) else Char.ofNat (87 + n)

/-- A character inside a string. Quote, backslash and control characters are
escaped, the latter by their short names where they have one. -/
def escapeChar (c : Char) : List Char :=
  if c = '"' then ['\\', '"']
  else if c = '\\' then ['\\', '\\']
  else if c = '\x08' then ['\\', 'b']
  else if c = '\x0c' then ['\\', 'f']
  else if c = '\n' then ['\\', 'n']
  else if c = '\r' then ['\\', 'r']
  else if c = '\t' then ['\\', 't']
  else if c.toNat < 32 then ['\\', 'u', '0', '0', hexDigit (c.toNat / 16), hexDigit (c.toNat % 16)]
  else [c]

def quote (s : String) : String := "\"" ++ String.ofList (s.toList.flatMap escapeChar) ++ "\""

mutual

/-- Text without blanks. -/
def compact : Json → String
  | .null => "null"
  | .bool true => "true"
  | .bool false => "false"
  | .number literal => literal
  | .string s => quote s
  | .array [] => "[]"
  | .array (item :: items) => "[" ++ compact item ++ compactItems items ++ "]"
  | .object [] => "\x7b\x7d"
  | .object ((name, value) :: fields) =>
    "\x7b" ++ quote name ++ ":" ++ compact value ++ compactFields fields ++ "\x7d"

/-- The items after the first. -/
def compactItems : List Json → String
  | [] => ""
  | item :: items => "," ++ compact item ++ compactItems items

/-- The fields after the first. -/
def compactFields : List (String × Json) → String
  | [] => ""
  | (name, value) :: fields => "," ++ quote name ++ ":" ++ compact value ++ compactFields fields

end

/-- A new line at the given level. -/
def newLine (level : Nat) : String := "\n" ++ String.ofList (List.replicate (2 * level) ' ')

mutual

/-- Text with an item a line, for a value whose own line is at the given level. -/
def prettyAt : (level : Nat) → Json → String
  | _, .null => "null"
  | _, .bool true => "true"
  | _, .bool false => "false"
  | _, .number literal => literal
  | _, .string s => quote s
  | _, .array [] => "[]"
  | level, .array (item :: items) =>
    "[" ++ newLine (level + 1) ++ prettyAt (level + 1) item ++ prettyItems (level + 1) items ++
      newLine level ++ "]"
  | _, .object [] => "\x7b\x7d"
  | level, .object ((name, value) :: fields) =>
    "\x7b" ++ newLine (level + 1) ++ quote name ++ ": " ++ prettyAt (level + 1) value ++
      prettyFields (level + 1) fields ++ newLine level ++ "\x7d"

/-- The items after the first. -/
def prettyItems : (level : Nat) → List Json → String
  | _, [] => ""
  | level, item :: items =>
    "," ++ newLine level ++ prettyAt level item ++ prettyItems level items

/-- The fields after the first. -/
def prettyFields : (level : Nat) → List (String × Json) → String
  | _, [] => ""
  | level, (name, value) :: fields =>
    "," ++ newLine level ++ quote name ++ ": " ++ prettyAt level value ++ prettyFields level fields

end

def pretty (j : Json) : String := prettyAt 0 j

end ExprDisplay.Json
