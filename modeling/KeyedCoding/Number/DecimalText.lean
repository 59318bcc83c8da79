import KeyedCoding.Number.Binary

/-!
# Reading decimal numbers

A decimal text is rounded once to a binary format, whatever the number of its digits. There are
also words for the infinities and for what is no number.

## Main definitions

* `DecimalText`: the sign, the digits and the exponent of a decimal text.
* `FloatValue.ofText?`: the value that a text spells.
-/

namespace KeyedCoding

/-- The digits of a decimal number, as a whole number, and its exponent of ten. -/
structure DecimalText where
  digits : Nat
  exponent : Int
  deriving DecidableEq, Repr

namespace DecimalText

/-- A whole number by its digits. -/
def wholeOfDigits (digits : List Char) : Nat :=
  digits.foldl (fun value c => value * 10 + (c.toNat - 0x30)) 0

/-- Whether a text has a minus sign, and the text after its sign. -/
def takeSign : List Char → Bool × List Char
  | '-' :: rest => (true, rest)
  | '+' :: rest => (false, rest)
  | source => (false, source)

/-- The exponent of ten at the end of a decimal text. -/
def exponent? : List Char → Option Int
  | [] => some 0
  | c :: rest =>
    let (negative, digits) := takeSign rest
    if (c = 'e' ∨ c = 'E') ∧ digits ≠ [] ∧ digits.all Char.isDigit then
      some (if negative then -(wholeOfDigits digits : Int) else wholeOfDigits digits)
    else none

/-- The parts of a decimal text without a sign: digits with at most one point among or around them,
and perhaps an exponent. -/
def ofChars? (source : List Char) : Option DecimalText :=
  let whole := source.takeWhile Char.isDigit
  let (fraction, rest) := match source.dropWhile Char.isDigit with
    | '.' :: rest => (rest.takeWhile Char.isDigit, rest.dropWhile Char.isDigit)
    | rest => ([], rest)
  if whole.isEmpty && fraction.isEmpty then none
  else
    (exponent? rest).map fun exponent =>
      ⟨wholeOfDigits (whole ++ fraction), exponent - fraction.length⟩

/-- A decimal exponent beyond the range of every format. -/
def limit : Int := 400

/-- The value with a sign nearest to a decimal number. -/
def toFloat (format : BinaryFormat) (negative : Bool) (decimal : DecimalText) : FloatValue :=
  let top := decimal.exponent + (Nat.toDigits 10 decimal.digits).length
  if decimal.digits = 0 ∨ top < -limit then .ofRatio format negative 0 1
  else if limit < top then .infinite negative
  else
    .ofRatio format negative (decimal.digits * Nat.pow 10 decimal.exponent.toNat)
      (Nat.pow 10 (-decimal.exponent).toNat)

end DecimalText

/-- The value nearest to what a text spells: a decimal number, or a word in either case. -/
def FloatValue.ofText? (format : BinaryFormat) (text : String) : Option FloatValue :=
  let (negative, source) := DecimalText.takeSign text.toList
  let word := String.ofList (source.map Char.toLower)
  if word = "nan" then some .notANumber
  else if word = "inf" ∨ word = "infinity" then some (.infinite negative)
  else (DecimalText.ofChars? source).map (DecimalText.toFloat format negative)

/-- The whole number that a text spells: digits, perhaps after a sign. -/
def wholeOfText? (text : String) : Option Int :=
  let (negative, digits) := DecimalText.takeSign text.toList
  if digits ≠ [] ∧ digits.all Char.isDigit then
    some (if negative then -(DecimalText.wholeOfDigits digits : Int)
      else DecimalText.wholeOfDigits digits)
  else none

end KeyedCoding
