import ExprDisplay.Decimal.Reading
import ExprDisplay.Json.Reader
import ExprDisplay.Toml.Basic

/-!
Reading TOML documents. Each reader takes what it names from the front of the text and
gives back the rest. A value takes no more steps than the text has characters, up to a
factor, which bounds the recursion; how deep values nest has a limit of its own.
-/
namespace ExprDisplay.Toml

/-! ### Blanks, comments and line ends -/

def isBlank (c : Char) : Bool := c == ' ' || c == '\t'

/-- A character that may stand in a comment or a string as it is. -/
def isPlain (c : Char) : Bool := c == '\t' || (32 ≤ c.toNat && c.toNat != 127)

def skipBlanks (cs : List Char) : List Char := cs.dropWhile isBlank

/-- The rest after a line end. -/
def lineEnd? : List Char → Option (List Char)
  | '\n' :: rest => some rest
  | '\r' :: '\n' :: rest => some rest
  | _ => none

/-- The rest after blanks, a comment, and the end of the line or of the text. -/
def endLine? (cs : List Char) : Option (List Char) :=
  let rest := match skipBlanks cs with
    | '#' :: rest => rest.dropWhile isPlain
    | rest => rest
  if rest.isEmpty then some [] else lineEnd? rest

/-- Skips blanks, line ends and comments; `comment` says that one has begun. -/
def skipLines : (comment : Bool) → List Char → List Char
  | _, '\n' :: rest => skipLines false rest
  | _, '\r' :: '\n' :: rest => skipLines false rest
  | comment, c :: rest =>
    if comment && isPlain c then skipLines true rest
    else if !comment && isBlank c then skipLines false rest
    else if !comment && c == '#' then skipLines true rest
    else c :: rest
  | _, [] => []

/-! ### Strings -/

/-- A character by its code point. -/
def scalar? (n : Nat) : Option Char :=
  if n < 0xd800 || (0xdfff < n && n < 0x110000) then some (Char.ofNat n) else none

def hexNumber? (ds : List Char) : Option Nat :=
  ds.foldlM (fun n d => (Json.hexValue? d).map (n * 16 + ·)) 0

def escaped? (c : Char) : Option Char :=
  if c = 'b' then some '\x08'
  else if c = 't' then some '\t'
  else if c = 'n' then some '\n'
  else if c = 'f' then some '\x0c'
  else if c = 'r' then some '\r'
  else if c = '"' then some '"'
  else if c = '\\' then some '\\'
  else none

/-- What text and rest a reader gives after the characters `cs`. -/
def after (cs : List Char) (found : Option (List Char × List Char)) :
    Option (List Char × List Char) :=
  found.map fun (more, rest) => (cs ++ more, rest)

/-- A string in double quotes, from after its opening quote. -/
def basic? : List Char → Option (List Char × List Char)
  | [] => none
  | '"' :: rest => some ([], rest)
  | '\\' :: 'u' :: a :: b :: c :: d :: rest =>
    match (hexNumber? [a, b, c, d]).bind scalar? with
    | some x => after [x] (basic? rest)
    | none => none
  | '\\' :: 'U' :: a :: b :: c :: d :: e :: f :: g :: h :: rest =>
    match (hexNumber? [a, b, c, d, e, f, g, h]).bind scalar? with
    | some x => after [x] (basic? rest)
    | none => none
  | '\\' :: c :: rest =>
    match escaped? c with
    | some x => after [x] (basic? rest)
    | none => none
  | c :: rest => if isPlain c && c != '\\' then after [c] (basic? rest) else none

/-- A string in single quotes, from after its opening quote. -/
def literal? : List Char → Option (List Char × List Char)
  | [] => none
  | '\x27' :: rest => some ([], rest)
  | c :: rest => if isPlain c then after [c] (literal? rest) else none

/-- Whether only blanks stand before the next line end. -/
def endsLine (cs : List Char) : Bool := (lineEnd? (skipBlanks cs)).isSome

/-- A string in three double quotes, from after its first line end. Up to two quotes may
stand right before the closing ones. A backslash at the end of a line takes the blanks
and line ends after it away, which is what `trim` says. -/
def longBasic? : (trim : Bool) → List Char → Option (List Char × List Char)
  | _, [] => none
  | _, '"' :: '"' :: '"' :: '"' :: '"' :: rest => some (['"', '"'], rest)
  | _, '"' :: '"' :: '"' :: '"' :: rest => some (['"'], rest)
  | _, '"' :: '"' :: '"' :: rest => some ([], rest)
  | trim, '\r' :: '\n' :: rest =>
    if trim then longBasic? true rest else after ['\n'] (longBasic? false rest)
  | trim, '\n' :: rest => if trim then longBasic? true rest else after ['\n'] (longBasic? false rest)
  | _, '\\' :: 'u' :: a :: b :: c :: d :: rest =>
    match (hexNumber? [a, b, c, d]).bind scalar? with
    | some x => after [x] (longBasic? false rest)
    | none => none
  | _, '\\' :: 'U' :: a :: b :: c :: d :: e :: f :: g :: h :: rest =>
    match (hexNumber? [a, b, c, d, e, f, g, h]).bind scalar? with
    | some x => after [x] (longBasic? false rest)
    | none => none
  | _, '\\' :: c :: rest =>
    if endsLine (c :: rest) then longBasic? true (c :: rest)
    else match escaped? c with
      | some x => after [x] (longBasic? false rest)
      | none => none
  | trim, c :: rest =>
    if trim && isBlank c then longBasic? true rest
    else if isPlain c && c != '\\' then after [c] (longBasic? false rest)
    else none

/-- A string in three single quotes, from after its first line end. -/
def longLiteral? : List Char → Option (List Char × List Char)
  | [] => none
  | '\x27' :: '\x27' :: '\x27' :: '\x27' :: '\x27' :: rest => some (['\x27', '\x27'], rest)
  | '\x27' :: '\x27' :: '\x27' :: '\x27' :: rest => some (['\x27'], rest)
  | '\x27' :: '\x27' :: '\x27' :: rest => some ([], rest)
  | '\r' :: '\n' :: rest => after ['\n'] (longLiteral? rest)
  | '\n' :: rest => after ['\n'] (longLiteral? rest)
  | c :: rest => if isPlain c then after [c] (longLiteral? rest) else none

/-- Drops a line end in front. -/
def dropLineEnd (cs : List Char) : List Char := (lineEnd? cs).getD cs

/-! ### Keys -/

def isKeyChar (c : Char) : Bool := c.isAlphanum || c == '_' || c == '-'

/-- A key, bare or quoted. -/
def key? : List Char → Option (String × List Char)
  | '"' :: rest => (basic? rest).map fun (s, rest) => (String.ofList s, rest)
  | '\x27' :: rest => (literal? rest).map fun (s, rest) => (String.ofList s, rest)
  | cs =>
    match cs.takeWhile isKeyChar with
    | [] => none
    | name => some (String.ofList name, cs.dropWhile isKeyChar)

/-- The greatest number of keys in a path, and of brackets and braces around a value. -/
def levelLimit : Nat := 79

/-- Keys with points between them, at most `parts` of them. Blanks may stand around
the points and after the last key. -/
def path? : (parts : Nat) → List Char → Option (List String × List Char)
  | 0, _ => none
  | parts + 1, cs =>
    match key? (skipBlanks cs) with
    | none => none
    | some (key, rest) =>
      match skipBlanks rest with
      | '.' :: rest => (path? parts rest).map fun (keys, rest) => (key :: keys, rest)
      | rest => some ([key], rest)

/-! ### Numbers and words -/

/-- Digits without the underscores that stand between two of them. -/
def grouped? (isDigit : Char → Bool) : List Char → Option (List Char)
  | [] => none
  | [c] => if isDigit c then some [c] else none
  | c :: '_' :: rest => if isDigit c then (grouped? isDigit rest).map (c :: ·) else none
  | c :: rest => if isDigit c then (grouped? isDigit rest).map (c :: ·) else none

/-- Digits before a point: a zero stands alone. -/
def whole? (cs : List Char) : Option (List Char) :=
  match grouped? Char.isDigit cs with
  | some ('0' :: _ :: _) => none
  | found => found

def inRange? (i : Int) : Option Toml :=
  if Decimal.fitsWord i then some (.integer i) else none

/-- An integer in a base that is a power of two. -/
def radix? (base : Nat) (cs : List Char) : Option Toml :=
  let isDigit (c : Char) := match Json.hexValue? c with
    | some d => d < base
    | none => false
  match grouped? isDigit cs with
  | some ds => inRange? (ds.foldl (fun n d => n * base + (Json.hexValue? d).getD 0) 0 : Nat)
  | none => none

def signed (negative : Bool) (n : Int) : Int := if negative then -n else n

/-- The exponent of a float, after its mark. -/
def exponent? (cs : List Char) : Option Int :=
  let (negative, ds) := match cs with
    | '-' :: ds => (true, ds)
    | '+' :: ds => (false, ds)
    | ds => (false, ds)
  (grouped? Char.isDigit ds).map fun ds => signed negative (Decimal.digitsValue ds)

/-- A finite float. A positive one may not be too great for a double. -/
def finite? (negative : Bool) (whole fraction : List Char) (exponent : Int) : Option Toml :=
  let x := Decimal.ofParts negative whole fraction exponent
  if x == 1.0 / 0.0 then none else some (.float x)

/-- A decimal number after its sign. -/
def decimal? (negative : Bool) (cs : List Char) : Option Toml :=
  let isMark (c : Char) := c == '.' || c == 'e' || c == 'E'
  match whole? (cs.takeWhile fun c => !isMark c) with
  | none => none
  | some whole =>
    match cs.dropWhile fun c => !isMark c with
    | [] => inRange? (signed negative (Decimal.digitsValue whole))
    | '.' :: rest =>
      match grouped? Char.isDigit (rest.takeWhile fun c => !isMark c) with
      | none => none
      | some fraction =>
        match rest.dropWhile fun c => !isMark c with
        | [] => finite? negative whole fraction 0
        | '.' :: _ => none
        | _ :: more => (exponent? more).bind fun e => finite? negative whole fraction e
    | _ :: more => (exponent? more).bind fun e => finite? negative whole [] e

/-- A word that is no string: a truth value or a number. -/
def word? (cs : List Char) : Option Toml :=
  match cs with
  | ['t', 'r', 'u', 'e'] => some (.boolean true)
  | ['f', 'a', 'l', 's', 'e'] => some (.boolean false)
  | '0' :: 'x' :: ds => radix? 16 ds
  | '0' :: 'o' :: ds => radix? 8 ds
  | '0' :: 'b' :: ds => radix? 2 ds
  | _ =>
    let (negative, rest) := match cs with
      | '-' :: rest => (true, rest)
      | '+' :: rest => (false, rest)
      | rest => (false, rest)
    match rest with
    | ['i', 'n', 'f'] => some (.float (if negative then -(1.0 / 0.0) else 1.0 / 0.0))
    | ['n', 'a', 'n'] => some (.float (0.0 / 0.0))
    | rest => decimal? negative rest

def isWordChar (c : Char) : Bool := c.isAlphanum || c == '_' || c == '-' || c == '+' || c == '.'

/-! ### Values -/

/-- A table of pairs in braces. -/
def inlineTable? (pairs : List (List String × Toml)) : Option Toml :=
  ((Draft.empty .header).addPairs pairs).map Draft.finish

mutual

/-- A value with at most `room` levels of brackets and braces, read in at most `steps`
steps. -/
def value? : (steps room : Nat) → List Char → Option (Toml × List Char)
  | 0, _, _ => none
  | _ + 1, _, '"' :: '"' :: '"' :: rest =>
    (longBasic? false (dropLineEnd rest)).map fun (s, rest) => (.string (String.ofList s), rest)
  | _ + 1, _, '\x27' :: '\x27' :: '\x27' :: rest =>
    (longLiteral? (dropLineEnd rest)).map fun (s, rest) => (.string (String.ofList s), rest)
  | _ + 1, _, '"' :: rest => (basic? rest).map fun (s, rest) => (.string (String.ofList s), rest)
  | _ + 1, _, '\x27' :: rest =>
    (literal? rest).map fun (s, rest) => (.string (String.ofList s), rest)
  | _ + 1, 0, '[' :: _ => none
  | steps + 1, room + 1, '[' :: rest =>
    (items? steps room rest).map fun (items, rest) => (.array items, rest)
  | _ + 1, 0, '\x7b' :: _ => none
  | steps + 1, room + 1, '\x7b' :: rest =>
    match skipBlanks rest with
    | '\x7d' :: rest => some (.table [], rest)
    | rest =>
      match pairs? steps room rest with
      | none => none
      | some (pairs, rest) => (inlineTable? pairs).map fun t => (t, rest)
  | _ + 1, _, cs =>
    match moment? cs with
    | some (m, rest) => some (.moment m, rest)
    | none => (word? (cs.takeWhile isWordChar)).map fun v => (v, cs.dropWhile isWordChar)

/-- Items up to the closing bracket; a comma may follow the last. -/
def items? : (steps room : Nat) → List Char → Option (List Toml × List Char)
  | 0, _, _ => none
  | steps + 1, room, cs =>
    match skipLines false cs with
    | ']' :: rest => some ([], rest)
    | rest =>
      match value? steps room rest with
      | none => none
      | some (item, rest) =>
        match skipLines false rest with
        | ',' :: rest => (items? steps room rest).map fun (items, rest) => (item :: items, rest)
        | ']' :: rest => some ([item], rest)
        | _ => none

/-- One or more pairs up to the closing brace, on one line. -/
def pairs? : (steps room : Nat) → List Char → Option (List (List String × Toml) × List Char)
  | 0, _, _ => none
  | steps + 1, room, cs =>
    match pair? steps room cs with
    | none => none
    | some (pair, rest) =>
      match skipBlanks rest with
      | ',' :: rest => (pairs? steps room rest).map fun (pairs, rest) => (pair :: pairs, rest)
      | '\x7d' :: rest => some ([pair], rest)
      | _ => none

/-- A key path, an equals sign and a value. -/
def pair? : (steps room : Nat) → List Char → Option ((List String × Toml) × List Char)
  | 0, _, _ => none
  | steps + 1, room, cs =>
    match path? levelLimit cs with
    | some (path, '=' :: rest) =>
      (value? steps room (skipBlanks rest)).map fun (v, rest) => ((path, v), rest)
    | _ => none

end

/-! ### Documents -/

/-- A line of a document. -/
inductive Line where
  | header (path : List String) (repeated : Bool)
  | pair (path : List String) (v : Toml)

/-- The line in front, which is neither blank nor a comment. -/
def line? (cs : List Char) : Option (Line × List Char) :=
  match cs with
  | '[' :: '[' :: rest =>
    match path? levelLimit rest with
    | some (path, ']' :: ']' :: rest) => some (.header path true, rest)
    | _ => none
  | '[' :: rest =>
    match path? levelLimit rest with
    | some (path, ']' :: rest) => some (.header path false, rest)
    | _ => none
  | _ => (pair? (4 * (cs.length + 1)) levelLimit cs).map fun ((path, v), rest) => (.pair path v, rest)

/-- The lines of a document, at most `count` of them. -/
def lines? : (count : Nat) → List Char → Option (List Line)
  | 0, cs => if (skipLines false cs).isEmpty then some [] else none
  | count + 1, cs =>
    match skipLines false cs with
    | [] => some []
    | cs =>
      match line? cs with
      | none => none
      | some (line, rest) =>
        match endLine? rest with
        | none => none
        | some rest => (lines? count rest).map (line :: ·)

/-- Groups lines into the pairs before the first header and the sections. -/
def sections : List Line → List (List String × Toml) × List Section
  | [] => ([], [])
  | .pair path v :: rest =>
    let (pairs, more) := sections rest
    ((path, v) :: pairs, more)
  | .header path repeated :: rest =>
    let (pairs, more) := sections rest
    ([], ⟨path, repeated, pairs⟩ :: more)

/-- Reads a document; a byte-order mark in front is passed over. -/
def parse? (text : String) : Option Toml :=
  let cs := match text.toList with
    | '\uFEFF' :: cs => cs
    | cs => cs
  (lines? (cs.length + 1) cs).bind fun lines =>
    let (pairs, more) := sections lines
    ofSections pairs more

end ExprDisplay.Toml
