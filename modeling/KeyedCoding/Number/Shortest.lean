import KeyedCoding.Number.Binary

/-!
# The shortest decimal that reads back

A magnitude of a binary format is shown with the fewest decimal digits that round to it. All
numbers closer to it than to its neighbours round to it, and those half way do so if its mantissa
is even. Of the grids of decimal numbers, from coarse to fine, the first one with a point in that
interval is taken, and of its points the nearest one.

## Main definitions

* `Decimal`: a whole number of units of a power of ten.
* `Magnitude.shortest`: the shortest decimal that rounds to a magnitude.
* `Decimal.positional`, `Decimal.scientific`: the two ways to write a decimal.
-/

namespace KeyedCoding

/-- The digits, as a whole number, times ten to the power of the exponent. -/
structure Decimal where
  digits : Nat
  exponent : Int
  deriving DecidableEq, Repr

namespace Magnitude

/-- Whether the neighbour below is only half as far away as the one above. -/
def isBinadeStart (format : BinaryFormat) (magnitude : Magnitude) : Bool :=
  magnitude.mantissa == Nat.pow 2 (format.precision - 1) &&
    format.leastExponent < magnitude.exponent

/-- The point of the decimal grid with steps of ten to the power of `exponent` that rounds to a
magnitude, the nearest one if there are two. The interval is measured in quarters of a unit of the
mantissa. -/
def gridPoint? (format : BinaryFormat) (magnitude : Magnitude) (exponent : Int) : Option Nat :=
  let quarter : Int := magnitude.exponent - 2
  let scale := Nat.pow 2 quarter.toNat * Nat.pow 10 (-exponent).toNat
  let step := Nat.pow 10 exponent.toNat * Nat.pow 2 (-quarter).toNat
  let value := 4 * magnitude.mantissa * scale
  let lowest := (4 * magnitude.mantissa - if isBinadeStart format magnitude then 1 else 2) * scale
  let highest := (4 * magnitude.mantissa + 2) * scale
  let isEven := magnitude.mantissa % 2 == 0
  let rounds (point : Nat) : Bool :=
    let place := point * step
    if isEven then lowest ≤ place && place ≤ highest else lowest < place && place < highest
  let below := value / step
  let above := below + 1
  match rounds below, rounds above with
  | true, true => some (if above * step - value < value - below * step then above else below)
  | true, false => some below
  | false, true => some above
  | false, false => none

/-- The first grid with a point that rounds to a magnitude, among `fuel` grids from `exponent`
downwards. -/
def searchGrids (format : BinaryFormat) (magnitude : Magnitude) : Nat → Int → Decimal
  | 0, exponent => ⟨magnitude.mantissa, exponent⟩
  | fuel + 1, exponent =>
    match gridPoint? format magnitude exponent with
    | some digits => ⟨digits, exponent⟩
    | none => searchGrids format magnitude fuel (exponent - 1)

/-- An exponent of ten that is too large for any point but the first to round to a magnitude. -/
def coarsestGrid (magnitude : Magnitude) : Int :=
  ((Nat.log2 magnitude.mantissa : Int) + magnitude.exponent + 1) * 30103 / 100000 + 1

/-- The shortest decimal that rounds to a magnitude. -/
def shortest (format : BinaryFormat) (magnitude : Magnitude) : Decimal :=
  if magnitude.mantissa = 0 then ⟨0, 0⟩
  else searchGrids format magnitude 25 magnitude.coarsestGrid

end Magnitude

namespace Decimal

/-- The digits of a decimal as text. -/
def digitText (decimal : Decimal) : List Char := Nat.toDigits 10 decimal.digits

/-- The exponent of ten of the first digit. -/
def leadingExponent (decimal : Decimal) : Int :=
  decimal.exponent + decimal.digitText.length - 1

/-- A decimal without an exponent: all its digits in their places, with a point only if there are
digits after it. -/
def positional (decimal : Decimal) : List Char :=
  let digits := decimal.digitText
  if 0 ≤ decimal.exponent then digits ++ List.replicate decimal.exponent.toNat '0'
  else
    let fractionLength := (-decimal.exponent).toNat
    let padded := List.replicate (fractionLength + 1 - digits.length) '0' ++ digits
    let split := padded.length - fractionLength
    padded.take split ++ '.' :: padded.drop split

/-- A decimal with its first digit before the point and a signed exponent. -/
def scientific (decimal : Decimal) : List Char :=
  let exponent := decimal.leadingExponent
  let sign := if exponent < 0 then '-' else '+'
  let mantissa := match decimal.digitText with
    | [digit] => [digit]
    | digit :: rest => digit :: '.' :: rest
    | [] => []
  mantissa ++ 'e' :: sign :: Nat.toDigits 10 exponent.natAbs

end Decimal

end KeyedCoding
