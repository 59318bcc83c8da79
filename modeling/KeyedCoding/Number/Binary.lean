/-!
# Binary floating-point numbers

A finite number of a binary format is a mantissa times a power of two. Numbers are rounded to a
format from exact ratios, so that no operation depends on the arithmetic of a machine.

## Main definitions

* `BinaryFormat`: the precision and the range of a format.
* `Magnitude`: the absolute value of a finite number.
* `BinaryFormat.round`: the magnitude nearest to a ratio, ties going to the even mantissa.
* `FloatValue`: a number of a format, an infinity, or no number.
-/

namespace KeyedCoding

/-- The precision and the range of a binary format. -/
structure BinaryFormat where
  /-- The number of bits of a mantissa. -/
  precision : Nat
  /-- The exponent of the smallest magnitudes, which need not fill the mantissa. -/
  leastExponent : Int
  greatestExponent : Int
  deriving DecidableEq, Repr

/-- Numbers of 64 bits. -/
def BinaryFormat.double : BinaryFormat := ⟨53, -1074, 971⟩

/-- Numbers of 32 bits. -/
def BinaryFormat.single : BinaryFormat := ⟨24, -149, 104⟩

/-- The absolute value of a finite number: the mantissa times two to the power of the exponent. -/
structure Magnitude where
  mantissa : Nat
  exponent : Int
  deriving DecidableEq, Repr

namespace Magnitude

/-- The numerator of a magnitude as a ratio. -/
def numerator (magnitude : Magnitude) : Nat :=
  magnitude.mantissa * Nat.pow 2 magnitude.exponent.toNat

/-- The denominator of a magnitude as a ratio. -/
def denominator (magnitude : Magnitude) : Nat := Nat.pow 2 (-magnitude.exponent).toNat

end Magnitude

namespace BinaryFormat

/-- The quotient rounded to the nearest whole number, ties going to the even one. -/
def divideToEven (numerator denominator : Nat) : Nat :=
  let quotient := numerator / denominator
  let rest := numerator % denominator
  if denominator < 2 * rest || (2 * rest == denominator && quotient % 2 == 1) then quotient + 1
  else quotient

/-- The exponent for a ratio: the mantissa fills the precision, or the exponent is the least. -/
def exponentFor (format : BinaryFormat) (numerator denominator : Nat) : Int :=
  let low : Int := (Nat.log2 numerator : Int) - Nat.log2 denominator - format.precision
  let top : Int := low + format.precision
  let isBelow := numerator * Nat.pow 2 (-top).toNat < denominator * Nat.pow 2 top.toNat
  max format.leastExponent (if isBelow then low else low + 1)

/-- The magnitude nearest to a ratio with a positive denominator, ties going to the even mantissa;
none if it is beyond the range. -/
def round (format : BinaryFormat) (numerator denominator : Nat) : Option Magnitude :=
  if numerator = 0 then some ⟨0, format.leastExponent⟩
  else
    let exponent := format.exponentFor numerator denominator
    let mantissa :=
      divideToEven (numerator * Nat.pow 2 (-exponent).toNat)
        (denominator * Nat.pow 2 exponent.toNat)
    let (mantissa, exponent) :=
      if mantissa = Nat.pow 2 format.precision then
        (Nat.pow 2 (format.precision - 1), exponent + 1)
      else (mantissa, exponent)
    if exponent ≤ format.greatestExponent then some ⟨mantissa, exponent⟩ else none

end BinaryFormat

/-- A number of a binary format, an infinity, or no number. -/
inductive FloatValue where
  | finite (negative : Bool) (magnitude : Magnitude)
  | infinite (negative : Bool)
  | notANumber
  deriving DecidableEq, Repr

namespace FloatValue

/-- The value with a sign nearest to a ratio; beyond the range it is infinite. -/
def ofRatio (format : BinaryFormat) (negative : Bool) (numerator denominator : Nat) : FloatValue :=
  match format.round numerator denominator with
  | some magnitude => finite negative magnitude
  | none => infinite negative

/-- The value nearest to a whole number. -/
def ofInt (format : BinaryFormat) (value : Int) : FloatValue :=
  ofRatio format (value < 0) value.natAbs 1

/-- A value in another format. -/
def convert (format : BinaryFormat) : FloatValue → FloatValue
  | finite negative magnitude =>
    ofRatio format negative magnitude.numerator magnitude.denominator
  | value => value

end FloatValue

end KeyedCoding
