/-!
Decimal digits as integers, and the double nearest to a decimal.
-/
namespace ExprDisplay.Decimal

/-- The greatest power of ten that a double may need. -/
def exponentLimit : Int := 400

/-- The value of a list of digits. -/
def digitsValue (digits : List Char) : Nat :=
  digits.foldl (fun n d => n * 10 + (d.toNat - '0'.toNat)) 0

/-- Whether an integer fits in 64 bits with a sign. -/
def fitsWord (i : Int) : Bool := -0x8000000000000000 ≤ i && i ≤ 0x7fffffffffffffff

/-- The double nearest to `digits * 10 ^ exponent`. Past the limit the power is taken at
the limit: the number is out of range, or too small to differ from zero, either way. -/
def toDouble (digits : Nat) (exponent : Int) : Float :=
  let least := -(exponentLimit + (Nat.toDigits 10 digits).length)
  let exponent := max least (min exponentLimit exponent)
  if 0 ≤ exponent then Float.ofScientific digits false exponent.toNat
  else Float.ofScientific digits true (-exponent).toNat

/-- The double nearest to the decimal `whole.fraction * 10 ^ exponent`. -/
def ofParts (negative : Bool) (whole fraction : List Char) (exponent : Int) : Float :=
  let magnitude := toDouble (digitsValue (whole ++ fraction)) (exponent - fraction.length)
  if negative then -magnitude else magnitude

end ExprDisplay.Decimal
