import ExprDisplay.Decimal.Reading

/-!
Dates and times of day in TOML documents: how they are read and how they are written.
Only days of the calendar are read. Written forms are canonical: a capital `T` between
date and time, a fraction of a second without zeros at its end.
-/
namespace ExprDisplay.Toml

structure Date where
  year : Nat
  month : Nat
  day : Nat
  deriving DecidableEq, Repr

structure Time where
  hour : Nat
  minute : Nat
  second : Nat
  nanosecond : Nat
  deriving DecidableEq, Repr

/-- The distance of a local time from universal time. -/
inductive Offset where
  | zulu
  | minutes (count : Int)
  deriving DecidableEq, Repr

inductive Moment where
  | date (d : Date)
  | time (t : Time)
  | dateTime (d : Date) (t : Time) (offset : Option Offset)
  deriving DecidableEq, Repr

/-! ### Writing -/

/-- A number with zeros in front, up to a width. -/
def padded (width n : Nat) : String :=
  let digits := Nat.toDigits 10 n
  String.ofList (List.replicate (width - digits.length) '0' ++ digits)

def Date.text (d : Date) : String :=
  padded 4 d.year ++ "-" ++ padded 2 d.month ++ "-" ++ padded 2 d.day

/-- The fraction of a second with its point; nothing for none. -/
def fractionText (nanosecond : Nat) : String :=
  if nanosecond = 0 then ""
  else
    let digits := (padded 9 nanosecond).toList
    "." ++ String.ofList (digits.reverse.dropWhile (· == '0')).reverse

def Time.text (t : Time) : String :=
  padded 2 t.hour ++ ":" ++ padded 2 t.minute ++ ":" ++ padded 2 t.second ++
    fractionText t.nanosecond

def Offset.text : Offset → String
  | .zulu => "Z"
  | .minutes count =>
    let distance := count.natAbs
    (if count < 0 then "-" else "+") ++ padded 2 (distance / 60) ++ ":" ++ padded 2 (distance % 60)

def Moment.text : Moment → String
  | .date d => d.text
  | .time t => t.text
  | .dateTime d t offset => d.text ++ "T" ++ t.text ++ ((offset.map Offset.text).getD "")

/-! ### Reading -/

/-- A number of exactly `count` digits. -/
def digits? (count : Nat) (cs : List Char) : Option (Nat × List Char) :=
  let digits := cs.take count
  if digits.length = count && digits.all Char.isDigit then
    some (Decimal.digitsValue digits, cs.drop count)
  else none

/-- A number of two digits in a range. -/
def pairIn? (least greatest : Nat) (cs : List Char) : Option (Nat × List Char) :=
  (digits? 2 cs).filter fun (n, _) => least ≤ n && n ≤ greatest

/-- The rest after a character. -/
def skip? (c : Char) : List Char → Option (List Char)
  | [] => none
  | d :: rest => if c = d then some rest else none

def isLeapYear (year : Nat) : Bool := year % 4 == 0 && (year % 100 != 0 || year % 400 == 0)

def daysIn (year month : Nat) : Nat :=
  if month = 2 then (if isLeapYear year then 29 else 28)
  else if month = 4 ∨ month = 6 ∨ month = 9 ∨ month = 11 then 30
  else 31

def date? (cs : List Char) : Option (Date × List Char) := do
  let (year, rest) ← digits? 4 cs
  let (month, rest) ← pairIn? 1 12 (← skip? '-' rest)
  let (day, rest) ← pairIn? 1 (daysIn year month) (← skip? '-' rest)
  return (⟨year, month, day⟩, rest)

/-- A fraction of a second in nanoseconds; digits past the ninth are dropped. -/
def fraction : List Char → Nat × List Char
  | '.' :: rest =>
    match rest.takeWhile Char.isDigit with
    | [] => (0, '.' :: rest)
    | digits =>
      let nine := (digits ++ List.replicate 9 '0').take 9
      (Decimal.digitsValue nine, rest.dropWhile Char.isDigit)
  | cs => (0, cs)

/-- A time of day; a minute may have a leap second. -/
def time? (cs : List Char) : Option (Time × List Char) := do
  let (hour, rest) ← pairIn? 0 23 cs
  let (minute, rest) ← pairIn? 0 59 (← skip? ':' rest)
  let (second, rest) ← pairIn? 0 60 (← skip? ':' rest)
  let (nanosecond, rest) := fraction rest
  return (⟨hour, minute, second, nanosecond⟩, rest)

/-- Hours and minutes of an offset, as minutes. -/
def distance? (cs : List Char) : Option (Nat × List Char) := do
  let (hours, rest) ← pairIn? 0 23 cs
  let (minutes, rest) ← pairIn? 0 59 (← skip? ':' rest)
  return (hours * 60 + minutes, rest)

def offset? : List Char → Option (Offset × List Char)
  | 'Z' :: rest | 'z' :: rest => some (.zulu, rest)
  | '+' :: rest => (distance? rest).map fun (n, rest) => (.minutes n, rest)
  | '-' :: rest => (distance? rest).map fun (n, rest) => (.minutes (-n), rest)
  | _ => none

/-- The time after a date, if one follows. -/
def timeAfter? : List Char → Option (Time × List Char)
  | c :: rest => if c = 'T' ∨ c = 't' ∨ c = ' ' then time? rest else none
  | [] => none

/-- A date, a time, or both in front of a text. -/
def moment? (cs : List Char) : Option (Moment × List Char) :=
  match date? cs with
  | none => (time? cs).map fun (t, rest) => (.time t, rest)
  | some (d, rest) =>
    match timeAfter? rest with
    | none => some (.date d, rest)
    | some (t, rest) =>
      match offset? rest with
      | none => some (.dateTime d t none, rest)
      | some (offset, rest) => some (.dateTime d t (some offset), rest)

end ExprDisplay.Toml
