/-!
Words of the binary interchange formats and the numbers they stand for: a finite
word is a sign and a significand scaled by a power of two, kept exactly.
-/
namespace ExprDisplay.Decimal

/-- Field widths of a binary interchange format. -/
structure Format where
  fractionBits : Nat
  exponentBits : Nat
  deriving DecidableEq, Repr

def binary64 : Format := ⟨52, 11⟩
def binary32 : Format := ⟨23, 8⟩

/-- The number a word stands for, its sign apart. -/
inductive Magnitude where
  | notANumber
  | infinite
  /-- The number `significand * 2 ^ exponent`; zero has a zero significand. -/
  | finite (significand : Nat) (exponent : Int)
  deriving DecidableEq, Repr

structure Word where
  negative : Bool
  magnitude : Magnitude
  deriving DecidableEq, Repr

namespace Format

/-- The greatest exponent field; it marks infinities and values that are no number. -/
def topExponent (f : Format) : Nat := Nat.pow 2 f.exponentBits - 1

/-- The power of two that scales a significand whose exponent field is `1`. -/
def leastExponent (f : Format) : Int :=
  2 - Nat.pow 2 (f.exponentBits - 1) - f.fractionBits

/-- The least significand of a normal number: the leading bit alone. -/
def leadingBit (f : Format) : Nat := Nat.pow 2 f.fractionBits

/-- Reads the fields of a word. Exponent field zero has no leading bit and
shares the scale of exponent field one. -/
def decode (f : Format) (bits : Nat) : Word :=
  let fraction := bits % f.leadingBit
  let field := bits / f.leadingBit % Nat.pow 2 f.exponentBits
  let negative := bits / Nat.pow 2 (f.fractionBits + f.exponentBits) % 2 == 1
  let magnitude :=
    if field = f.topExponent then
      if fraction = 0 then .infinite else .notANumber
    else if field = 0 then .finite fraction f.leastExponent
    else .finite (f.leadingBit + fraction) (f.leastExponent + (field - 1 : Nat))
  ⟨negative, magnitude⟩

end Format

example : binary64.decode 0x3ff0000000000000 = ⟨false, .finite (2 ^ 52) (-52)⟩ := by decide
example : binary64.decode 0x8000000000000001 = ⟨true, .finite 1 (-1074)⟩ := by decide
example : binary32.decode 0x7f800000 = ⟨false, .infinite⟩ := by decide

end ExprDisplay.Decimal
