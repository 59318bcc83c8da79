import KeyedCoding.Json.Value
import KeyedCoding.Number.Shortest

/-!
# Writing JSON

A value is written without blanks. A number that is not whole always shows a point or an exponent;
a string escapes quotes, backslashes and the controls below the space.

## Main definitions

* `FloatStyle`: between which exponents a number is written without one.
* `FloatStyle.text`: the text of a finite number.
* `Json.quoted`: a string between quotes.
* `Json.text`: the text of a value.
-/

namespace KeyedCoding

/-- How finite numbers of a format are written: with their first digit at an exponent between
`least` and `greatest` they have no exponent. -/
structure FloatStyle where
  format : BinaryFormat
  least : Int
  greatest : Int

namespace FloatStyle

/-- The style of numbers of 64 bits. -/
def double : FloatStyle := ⟨.double, -5, 15⟩

/-- The style of numbers of 32 bits. -/
def single : FloatStyle := ⟨.single, -6, 12⟩

/-- The text of a finite number: its shortest decimal with a point or an exponent. -/
def text (style : FloatStyle) (negative : Bool) (magnitude : Magnitude) : List Char :=
  let decimal := magnitude.shortest style.format
  let exponent := decimal.leadingExponent
  let unsigned :=
    if style.least ≤ exponent ∧ exponent ≤ style.greatest then
      decimal.positional ++ if decimal.exponent < 0 then [] else ['.', '0']
    else decimal.scientific
  if negative then '-' :: unsigned else unsigned

end FloatStyle

namespace Json

/-- The digits of a control in its escape. -/
def controlDigits (code : Nat) : List Char :=
  ['0', '0', Nat.digitChar (code / 16), Nat.digitChar (code % 16)]

/-- A character inside a string. -/
def quotedChar (c : Char) : List Char :=
  if c = '"' then ['\\', '"']
  else if c = '\\' then ['\\', '\\']
  else if c = '\n' then ['\\', 'n']
  else if c = '\t' then ['\\', 't']
  else if c = '\r' then ['\\', 'r']
  else if c = '\x08' then ['\\', 'b']
  else if c = '\x0c' then ['\\', 'f']
  else if c.toNat < 0x20 then '\\' :: 'u' :: controlDigits c.toNat
  else [c]

/-- A string between quotes. -/
def quoted (value : String) : List Char := '"' :: value.toList.flatMap quotedChar ++ ['"']

/-- A whole number. -/
def integerChars (value : Int) : List Char :=
  (if value < 0 then ['-'] else []) ++ Nat.toDigits 10 value.natAbs

mutual

/-- The characters of a value. -/
def chars : Json → List Char
  | .null => ['n', 'u', 'l', 'l']
  | .bool true => ['t', 'r', 'u', 'e']
  | .bool false => ['f', 'a', 'l', 's', 'e']
  | .integer value => integerChars value
  | .float negative magnitude => FloatStyle.double.text negative magnitude
  | .string value => quoted value
  | .array elements => '[' :: elementChars elements ++ [']']
  | .object entries => '{' :: entryChars entries ++ ['}']

/-- The characters of the elements of an array. -/
def elementChars : List Json → List Char
  | [] => []
  | [element] => chars element
  | element :: rest => chars element ++ ',' :: elementChars rest

/-- The characters of the entries of an object. -/
def entryChars : List (String × Json) → List Char
  | [] => []
  | [(key, value)] => quoted key ++ ':' :: chars value
  | (key, value) :: rest => quoted key ++ ':' :: (chars value ++ ',' :: entryChars rest)

end

/-- The text of a value. -/
def text (value : Json) : String := String.ofList value.chars

end Json

end KeyedCoding
