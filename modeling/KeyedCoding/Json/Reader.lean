import KeyedCoding.Json.Value
import KeyedCoding.Text.Escape

/-!
# Reading JSON

A text is read as one value with blanks around it. Nesting is bounded, of two entries with one key
the later one counts, and a whole number that fits 64 bits stays whole.

A number with a fraction or an exponent is read from its leading digits, as many as fit 64 bits:
they are rounded to a number of 64 bits, which is then multiplied or divided by a power of ten,
with one more rounding.

## Main definitions

* `Json.scaleByTen`: the rounding of leading digits and an exponent of ten.
* `Json.readNumber`, `Json.readString`, `Json.readValue`: the parts of a text.
* `Json.ofText?`: the value that a text spells.
-/

namespace KeyedCoding.Json

/-! ### Numbers -/

/-- The greatest whole number of 64 bits. -/
def maxUnsigned : Nat := 0xFFFFFFFFFFFFFFFF

/-- The greatest power of ten that is used as one factor. -/
def maxFactor : Nat := 308

/-- A magnitude times or over a power of ten, which is rounded first. -/
def timesPower (magnitude : Magnitude) (exponent : Int) : Option Magnitude :=
  match BinaryFormat.double.round (Nat.pow 10 exponent.natAbs) 1 with
  | none => none
  | some power =>
    if 0 ≤ exponent then
      BinaryFormat.double.round (magnitude.numerator * power.numerator)
        (magnitude.denominator * power.denominator)
    else
      BinaryFormat.double.round (magnitude.numerator * power.denominator)
        (magnitude.denominator * power.numerator)

/-- A magnitude times ten to the power of an exponent, at most `fuel` factors at a time. Zero stays
zero; beyond the range there is nothing. -/
def scaleByTen : Nat → Magnitude → Int → Option Magnitude
  | 0, _, _ => none
  | fuel + 1, magnitude, exponent =>
    if exponent.natAbs ≤ maxFactor then timesPower magnitude exponent
    else if magnitude.mantissa = 0 then some magnitude
    else if 0 ≤ exponent then none
    else
      match timesPower magnitude (-maxFactor) with
      | some magnitude => scaleByTen fuel magnitude (exponent + maxFactor)
      | none => none

/-- The value of a digit. -/
def digitValue (c : Char) : Nat := c.toNat - 0x30

/-- The leading digits that fit 64 bits as a whole number, and how many digits are left. -/
def leadingDigits : Nat → List Char → Nat × Nat
  | value, [] => (value, 0)
  | value, c :: rest =>
    let next := value * 10 + digitValue c
    if next ≤ maxUnsigned then leadingDigits next rest else (value, rest.length + 1)

/-- The magnitude of a number by its whole digits, its fraction and its exponent. -/
def magnitudeOfDigits (whole fraction : List Char) (exponent : Int) : Option Magnitude :=
  let (value, left) := leadingDigits 0 whole
  let (value, exponent) :=
    if left = 0 then
      let (value, leftOfFraction) := leadingDigits value fraction
      (value, exponent - ((fraction.length - leftOfFraction : Nat) : Int))
    else
      let (value, leftOfFraction) := leadingDigits value fraction
      (value, exponent + (left : Int) - ((fraction.length - leftOfFraction : Nat) : Int))
  (BinaryFormat.double.round value 1).bind fun magnitude => scaleByTen 5 magnitude exponent

/-- A whole number by its digits. It stays whole if it fits 64 bits; zero with a sign does not. -/
def wholeNumber (negative : Bool) (digits : List Char) : Option Json :=
  let (value, left) := leadingDigits 0 digits
  let asFloat := (magnitudeOfDigits digits [] 0).map (float negative)
  if left ≠ 0 then asFloat
  else if negative then
    if 0 < value ∧ value ≤ 0x8000000000000000 then some (integer (-value)) else asFloat
  else some (integer value)

/-- The digits at the start of a text, of which there is at least one, and the text after them. -/
def takeDigits (source : List Char) : Option (List Char × List Char) :=
  match source.takeWhile Char.isDigit with
  | [] => none
  | digits => some (digits, source.dropWhile Char.isDigit)

/-- The whole digits of a number, which do not start with a zero unless it is the only one. -/
def takeWhole : List Char → Option (List Char × List Char)
  | '0' :: rest =>
    match rest with
    | c :: _ => if c.isDigit then none else some (['0'], rest)
    | [] => some (['0'], [])
  | source => takeDigits source

/-- The digits after a point, if there is one. -/
def takeFraction : List Char → Option (List Char × List Char)
  | '.' :: rest => takeDigits rest
  | source => some ([], source)

/-- The value of an exponent after its sign. -/
def exponentOfDigits (negative : Bool) (digits : List Char) : Int :=
  let value : Int := digits.foldl (fun value c => value * 10 + digitValue c) 0
  if negative then -value else value

/-- An exponent, if there is one. -/
def takeExponent : List Char → Option (Option Int × List Char)
  | c :: rest =>
    if c = 'e' ∨ c = 'E' then
      let (negative, rest) := match rest with
        | '-' :: rest => (true, rest)
        | '+' :: rest => (false, rest)
        | rest => (false, rest)
      (takeDigits rest).map fun (digits, rest) => (some (exponentOfDigits negative digits), rest)
    else some (none, c :: rest)
  | [] => some (none, [])

/-- A number after its sign, and the text after it. -/
def readNumber (negative : Bool) (source : List Char) : Option (Json × List Char) :=
  match takeWhole source with
  | none => none
  | some (whole, rest) =>
    match takeFraction rest with
    | none => none
    | some (fraction, rest) =>
      match takeExponent rest with
      | none => none
      | some (exponent, rest) =>
        if fraction.isEmpty && exponent.isNone then
          (wholeNumber negative whole).map fun number => (number, rest)
        else
          (magnitudeOfDigits whole fraction (exponent.getD 0)).map fun magnitude =>
            (float negative magnitude, rest)

/-! ### Strings -/

/-- The value of four hexadecimal digits. -/
def hexCode (a b c d : Char) : Option Nat := do
  return (((← Text.hexDigit? a) * 16 + (← Text.hexDigit? b)) * 16 + (← Text.hexDigit? c)) * 16 +
    (← Text.hexDigit? d)

/-- The character of a short escape. -/
def shortEscape? : Char → Option Char
  | '"' => some '"'
  | '\\' => some '\\'
  | '/' => some '/'
  | 'b' => some '\x08'
  | 'f' => some '\x0c'
  | 'n' => some '\n'
  | 'r' => some '\r'
  | 't' => some '\t'
  | _ => none

/-- Whether a code is the first half of a pair for one character. -/
def isHighHalf (code : Nat) : Bool := 0xD800 ≤ code && code ≤ 0xDBFF

/-- Whether a code is the second half of a pair for one character. -/
def isLowHalf (code : Nat) : Bool := 0xDC00 ≤ code && code ≤ 0xDFFF

/-- The character of an escape and the text after it, given the text after the backslash. A half
of a pair may not stand alone. -/
def readEscape : List Char → Option (Char × List Char)
  | 'u' :: a :: b :: c :: d :: rest =>
    match hexCode a b c d with
    | none => none
    | some code =>
      if isLowHalf code then none
      else if isHighHalf code then
        match rest with
        | '\\' :: 'u' :: a :: b :: c :: d :: rest =>
          match hexCode a b c d with
          | some low =>
            if isLowHalf low then
              some (Char.ofNat (0x10000 + (code - 0xD800) * 0x400 + (low - 0xDC00)), rest)
            else none
          | none => none
        | _ => none
      else some (Char.ofNat code, rest)
  | c :: rest => (shortEscape? c).map fun c => (c, rest)
  | [] => none

/-- The characters of a string after its opening quote, and the text after its closing one, in at
most `fuel` steps. -/
def readChars : Nat → List Char → Option (List Char × List Char)
  | 0, _ => none
  | fuel + 1, source =>
    match source with
    | [] => none
    | '"' :: rest => some ([], rest)
    | '\\' :: rest =>
      match readEscape rest with
      | some (c, rest) => (readChars fuel rest).map fun (chars, rest) => (c :: chars, rest)
      | none => none
    | c :: rest =>
      if c.toNat < 0x20 then none
      else (readChars fuel rest).map fun (chars, rest) => (c :: chars, rest)

/-- A string after its opening quote, and the text after it. -/
def readString (source : List Char) : Option (String × List Char) :=
  (readChars source.length source).map fun (chars, rest) => (String.ofList chars, rest)

/-! ### Values -/

/-- Whether a character is a blank between the parts of a value. -/
def isBlank (c : Char) : Bool := c == ' ' || c == '\n' || c == '\t' || c == '\r'

/-- Drop the blanks at the start of a text. -/
def skipBlanks (source : List Char) : List Char := source.dropWhile isBlank

/-- Drop a word at the start of a text. -/
def dropWord? : List Char → List Char → Option (List Char)
  | [], source => some source
  | c :: cs, c' :: rest => if c = c' then dropWord? cs rest else none
  | _ :: _, [] => none

/-- How many arrays and objects may contain each other. -/
def maxDepth : Nat := 127

mutual

/-- A value, and the text after it: at most `depth` arrays and objects deep, in at most `fuel`
steps. -/
def readValue : Nat → Nat → List Char → Option (Json × List Char)
  | 0, _, _ => none
  | fuel + 1, depth, source =>
    match skipBlanks source with
    | [] => none
    | 'n' :: rest => (dropWord? ['u', 'l', 'l'] rest).map fun rest => (null, rest)
    | 't' :: rest => (dropWord? ['r', 'u', 'e'] rest).map fun rest => (bool true, rest)
    | 'f' :: rest => (dropWord? ['a', 'l', 's', 'e'] rest).map fun rest => (bool false, rest)
    | '"' :: rest => (readString rest).map fun (value, rest) => (string value, rest)
    | '-' :: rest => readNumber true rest
    | '[' :: rest =>
      match depth with
      | 0 => none
      | depth + 1 =>
        match skipBlanks rest with
        | ']' :: rest => some (array [], rest)
        | rest => (readElements fuel depth rest).map fun (elements, rest) => (array elements, rest)
    | '{' :: rest =>
      match depth with
      | 0 => none
      | depth + 1 =>
        match skipBlanks rest with
        | '}' :: rest => some (object [], rest)
        | rest =>
          (readEntries fuel depth rest).map fun (entries, rest) =>
            (object (Entries.ofList entries), rest)
    | rest => readNumber false rest

/-- The elements of an array up to its closing bracket. -/
def readElements : Nat → Nat → List Char → Option (List Json × List Char)
  | 0, _, _ => none
  | fuel + 1, depth, source =>
    match readValue fuel depth source with
    | none => none
    | some (element, rest) =>
      match skipBlanks rest with
      | ']' :: rest => some ([element], rest)
      | ',' :: rest =>
        (readElements fuel depth rest).map fun (elements, rest) => (element :: elements, rest)
      | _ => none

/-- The entries of an object up to its closing brace. -/
def readEntries : Nat → Nat → List Char → Option (List (String × Json) × List Char)
  | 0, _, _ => none
  | fuel + 1, depth, source =>
    match skipBlanks source with
    | '"' :: rest =>
      match readString rest with
      | none => none
      | some (key, rest) =>
        match skipBlanks rest with
        | ':' :: rest =>
          match readValue fuel depth rest with
          | none => none
          | some (value, rest) =>
            match skipBlanks rest with
            | '}' :: rest => some ([(key, value)], rest)
            | ',' :: rest =>
              (readEntries fuel depth rest).map fun (entries, rest) =>
                ((key, value) :: entries, rest)
            | _ => none
        | _ => none
    | _ => none

end

/-- The value that the characters of a text spell. A text has more characters than steps are
needed. -/
def ofChars? (source : List Char) : Option Json :=
  match readValue (2 * source.length + 2) maxDepth source with
  | some (value, rest) => if (skipBlanks rest).isEmpty then some value else none
  | none => none

/-- The value that a text spells. -/
def ofText? (source : String) : Option Json := ofChars? source.toList

end KeyedCoding.Json
