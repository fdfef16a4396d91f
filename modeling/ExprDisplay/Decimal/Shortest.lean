import ExprDisplay.Decimal.Binary

/-!
Shortest decimal text of a binary floating-point number. A number owns the reals
that round to it; the text is the decimal with the fewest digits among those
reals and, of the decimals with that many digits, the nearest to the number.
Everything is decided in exact integer arithmetic.
-/
namespace ExprDisplay.Decimal

/-- A decimal `0.ddd * 10 ^ place`. -/
structure Scaled where
  digits : List Char
  place : Int
  deriving DecidableEq, Repr

namespace Scaled

/-- The decimal `count * 10 ^ exponent`, without zeros at the end of its digits. -/
def ofCount (count : Nat) (exponent : Int) : Scaled :=
  let digits := Nat.toDigits 10 count
  ⟨(digits.reverse.dropWhile (· == '0')).reverse, exponent + digits.length⟩

def zeros (n : Nat) : String := String.ofList (List.replicate n '0')

/-- Text without an exponent, and without a point when no digit follows it. -/
def positional (s : Scaled) : String :=
  if s.place ≤ 0 then "0." ++ zeros (-s.place).toNat ++ String.ofList s.digits
  else if s.digits.length ≤ s.place.toNat then
    String.ofList s.digits ++ zeros (s.place.toNat - s.digits.length)
  else
    String.ofList (s.digits.take s.place.toNat) ++ "." ++
      String.ofList (s.digits.drop s.place.toNat)

end Scaled

/-- The reals that round to a positive number, as fractions over one denominator. -/
structure Interval where
  low : Nat
  value : Nat
  high : Nat
  denominator : Nat
  /-- Whether the two ends belong to the interval. -/
  closed : Bool
  deriving DecidableEq, Repr

namespace Interval

/-- Half the gap to each neighbour, in quarters of the unit `2 ^ exponent`. Below
a significand that is a lone leading bit the gap is half as wide. A tie between
neighbours goes to the even significand, so just these own both their ends. -/
def around (f : Format) (significand : Nat) (exponent : Int) : Interval :=
  let below := if significand = f.leadingBit then 1 else 2
  let scale := Nat.pow 2 (exponent - 2).toNat
  { low := (4 * significand - below) * scale
    value := 4 * significand * scale
    high := (4 * significand + 2) * scale
    denominator := Nat.pow 2 (2 - exponent).toNat
    closed := significand % 2 == 0 }

/-- Whether `count` units of `num / den` lie in the interval. -/
def holds (i : Interval) (count num den : Nat) : Bool :=
  let point := count * num * i.denominator
  let low := i.low * den
  let high := i.high * den
  if i.closed then low ≤ point && point ≤ high else low < point && point < high

/-- The decimal point's place: the value lies between `10 ^ (place - 1)`
inclusive and `10 ^ place` exclusive. -/
def place (i : Interval) : Int :=
  if i.denominator ≤ i.value then
    (Nat.toDigits 10 (i.value / i.denominator)).length
  else
    let shifts := (Nat.toDigits 10 ((i.denominator - 1) / i.value)).length
    1 - shifts

/-- The multiple of `10 ^ (place - digits)` in the interval that is nearest to the
value; of two equally near ones, the greater. -/
def nearest? (i : Interval) (place : Int) (digits : Nat) : Option Nat :=
  let num := Nat.pow 10 (place - digits).toNat
  let den := Nat.pow 10 (digits - place).toNat
  let lower := i.value * den / (i.denominator * num)
  let doubled := (2 * lower + 1) * i.denominator * num
  match i.holds lower num den, i.holds (lower + 1) num den with
  | true, true => some (if 2 * i.value * den < doubled then lower else lower + 1)
  | true, false => some lower
  | false, true => some (lower + 1)
  | false, false => none

/-- Tries `digits`, `digits + 1`, … digits, `tries` times. -/
def search (i : Interval) (place : Int) : (tries digits : Nat) → Option Scaled
  | 0, _ => none
  | tries + 1, digits =>
    match i.nearest? place digits with
    | some count => some (.ofCount count (place - digits))
    | none => search i place tries (digits + 1)

end Interval

/-- Seventeen digits tell any two numbers of the supported formats apart. -/
def digitLimit : Nat := 17

/-- Text of `significand * 2 ^ exponent`. -/
def finiteText (f : Format) (significand : Nat) (exponent : Int) : String :=
  if significand = 0 then "0"
  else
    let i := Interval.around f significand exponent
    match i.search i.place digitLimit 1 with
    | some decimal => decimal.positional
    | none => "0"

/-- Text of a word; only a number has a sign. -/
def Format.text (f : Format) (bits : Nat) : String :=
  let word := f.decode bits
  let sign := if word.negative then "-" else ""
  match word.magnitude with
  | .notANumber => "NaN"
  | .infinite => sign ++ "inf"
  | .finite significand exponent => sign ++ finiteText f significand exponent

/-- Text in double precision. -/
def doubleText (x : Float) : String := binary64.text x.toBits.toNat

/-- Text after rounding to single precision. -/
def singleText (x : Float) : String := binary32.text x.toFloat32.toBits.toNat

end ExprDisplay.Decimal
