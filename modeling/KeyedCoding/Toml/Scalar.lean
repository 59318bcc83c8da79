import KeyedCoding.Number.DecimalText
import KeyedCoding.Text.Escape
import KeyedCoding.Toml.Table

/-!
# Scalars of a TOML document

Numbers, truth values, dates and times are written without quotes; strings have four kinds of
quotes.

## Main definitions

* `Toml.Value.ofWord?`: the value of a scalar without quotes.
* `Toml.readQuoted`: a string with its quotes.
-/

namespace KeyedCoding.Toml

/-! ### Numbers -/

/-- Digits in which single underscores may stand between two digits. -/
def isDigitGroup (isDigit : Char → Bool) : List Char → Bool
  | [c] => isDigit c
  | c :: '_' :: rest => isDigit c && isDigitGroup isDigit rest
  | c :: rest => isDigit c && isDigitGroup isDigit rest
  | [] => false

/-- The digits of a group. -/
def withoutUnderscores (digits : List Char) : List Char := digits.filter (· != '_')

/-- A whole number by its digits to a base. -/
def wholeOfBase (base : Nat) (digits : List Char) : Nat :=
  (withoutUnderscores digits).foldl
    (fun value c => value * base + (Text.hexDigit? c).getD 0) 0

/-- Whether a character is a digit to a base. -/
def isDigitOf (base : Nat) (c : Char) : Bool :=
  match Text.hexDigit? c with
  | some value => value < base
  | none => false

/-- Whether digits have a zero in front of others. -/
def hasLeadingZero (digits : List Char) : Bool := digits.head? == some '0' && digits.length != 1

/-- A whole number after its sign. -/
def wholeNumber? (digits : List Char) : Option Nat :=
  if isDigitGroup Char.isDigit digits && !hasLeadingZero digits then some (wholeOfBase 10 digits)
  else none

/-- A whole number to one of the bases that are named in front of it. -/
def basedNumber? (word : List Char) : Option Nat :=
  let read (base : Nat) (digits : List Char) : Option Nat :=
    if isDigitGroup (isDigitOf base) digits then some (wholeOfBase base digits) else none
  match word with
  | '0' :: 'x' :: digits => read 16 digits
  | '0' :: 'o' :: digits => read 8 digits
  | '0' :: 'b' :: digits => read 2 digits
  | _ => none

/-- The sign at the start of a word, and the word after it. -/
def takeSign (word : List Char) : Option Bool × List Char :=
  match word with
  | '+' :: rest => (some false, rest)
  | '-' :: rest => (some true, rest)
  | _ => (none, word)

/-- Whether a word after its sign is a number with a fraction or an exponent. -/
def isFloat (word : List Char) : Bool :=
  let isExponentMark (c : Char) : Bool := c == 'e' || c == 'E'
  let mantissa := word.takeWhile (!isExponentMark ·)
  let exponentFits := match word.dropWhile (!isExponentMark ·) with
    | [] => true
    | _ :: exponent => isDigitGroup Char.isDigit (takeSign exponent).2
  let whole := mantissa.takeWhile (· != '.')
  let fractionFits := match mantissa.dropWhile (· != '.') with
    | [] => true
    | _ :: fraction => isDigitGroup Char.isDigit fraction
  isDigitGroup Char.isDigit whole && !hasLeadingZero whole && exponentFits && fractionFits

/-- A number with a fraction after its sign. -/
def float? (negative : Bool) (word : List Char) : Option Value :=
  if word = ['i', 'n', 'f'] then some (.float (some (.infinite negative)))
  else if word = ['n', 'a', 'n'] then some (.float (some .notANumber))
  else if isFloat word then
    (DecimalText.ofChars? (withoutUnderscores word)).map fun decimal =>
      match decimal.toFloat .double negative with
      | .finite negative magnitude => .float (some (.finite negative magnitude))
      | _ => .float none
  else none

/-- The number that a word spells. -/
def number? (word : List Char) : Option Value :=
  match basedNumber? word with
  | some value => some (.integer value)
  | none =>
    let (sign, digits) := takeSign word
    let negative := sign.getD false
    match wholeNumber? digits with
    | some value => some (.integer (if negative then -(value : Int) else value))
    | none => float? negative digits

/-! ### Dates and times -/

/-- Two digits as a number, and the word after them. -/
def takePair : List Char → Option (Nat × List Char)
  | a :: b :: rest =>
    if a.isDigit && b.isDigit then some (DecimalText.wholeOfDigits [a, b], rest) else none
  | _ => none

/-- Take a character. -/
def takeChar (test : Char → Bool) : List Char → Option (List Char)
  | c :: rest => if test c then some rest else none
  | [] => none

/-- The number of days of a month. -/
def daysOfMonth (year month : Nat) : Nat :=
  if month = 2 then
    if year % 4 = 0 ∧ (year % 100 ≠ 0 ∨ year % 400 = 0) then 29 else 28
  else if [4, 6, 9, 11].contains month then 30
  else 31

/-- Take a date. -/
def takeDate (word : List Char) : Option (List Char) := do
  let (century, word) ← takePair word
  let (year, word) ← takePair word
  let (month, word) ← takePair (← takeChar (· == '-') word)
  let (day, word) ← takePair (← takeChar (· == '-') word)
  if 1 ≤ month ∧ month ≤ 12 ∧ 1 ≤ day ∧ day ≤ daysOfMonth (100 * century + year) month then
    some word
  else none

/-- Take the fraction of a second. -/
def takeFraction : List Char → Option (List Char)
  | '.' :: c :: rest => if c.isDigit then some (rest.dropWhile Char.isDigit) else none
  | '.' :: [] => none
  | word => some word

/-- Take a time, whose seconds may be left out. -/
def takeTime (word : List Char) : Option (List Char) := do
  let (hour, word) ← takePair word
  let (minute, word) ← takePair (← takeChar (· == ':') word)
  if 23 < hour ∨ 59 < minute then none
  else match word with
    | ':' :: rest =>
      let (second, rest) ← takePair rest
      if 60 < second then none else takeFraction rest
    | _ => some word

/-- Take the distance to universal time, if it is given. -/
def takeOffset (word : List Char) : Option (List Char) := do
  match word with
  | [] => some []
  | c :: rest =>
    if c = 'Z' ∨ c = 'z' then some rest
    else if c = '+' ∨ c = '-' then
      let (hour, rest) ← takePair rest
      let (minute, rest) ← takePair (← takeChar (· == ':') rest)
      if 23 < hour ∨ 59 < minute then none else some rest
    else none

/-- Whether a character parts a date from a time. -/
def isTimeMark (c : Char) : Bool := c == 'T' || c == 't' || c == ' '

/-- Whether a word is a date, a time, or both. -/
def isDateTime (word : List Char) : Bool :=
  match takeDate word with
  | none => takeTime word == some []
  | some [] => true
  | some rest => ((takeChar isTimeMark rest).bind takeTime).bind takeOffset == some []

/-- The value of a scalar without quotes. -/
def Value.ofWord? (word : List Char) : Option Value :=
  if word = ['t', 'r', 'u', 'e'] then some (.boolean true)
  else if word = ['f', 'a', 'l', 's', 'e'] then some (.boolean false)
  else if isDateTime word then some .dateTime
  else number? word

/-! ### Strings -/

/-- Whether a character may stand for itself in a string or a comment. -/
def isPlain (c : Char) : Bool := c == '\t' || (0x20 ≤ c.toNat && c.toNat != 0x7F)

/-- The number of a row of hexadecimal digits. -/
def hexNumber? (digits : List Char) : Option Nat :=
  if digits.all fun c => (Text.hexDigit? c).isSome then some (wholeOfBase 16 digits) else none

/-- The character with a code of some digits at the start of a text, and the text after it. -/
def takeCode (digits : Nat) (source : List Char) : Option (Char × List Char) := do
  if source.length < digits then none
  else
    let code ← hexNumber? (source.take digits)
    if code.isValidChar then some (Char.ofNat code, source.drop digits) else none

/-- The character of an escape after its backslash, and the text after it. -/
def readEscape : List Char → Option (Char × List Char)
  | 'b' :: rest => some ('\x08', rest)
  | 't' :: rest => some ('\t', rest)
  | 'n' :: rest => some ('\n', rest)
  | 'f' :: rest => some ('\x0c', rest)
  | 'r' :: rest => some ('\r', rest)
  | 'e' :: rest => some ('\x1b', rest)
  | '"' :: rest => some ('"', rest)
  | '\\' :: rest => some ('\\', rest)
  | 'x' :: rest => takeCode 2 rest
  | 'u' :: rest => takeCode 4 rest
  | 'U' :: rest => takeCode 8 rest
  | _ => none

/-- Drop a line break. -/
def takeNewline : List Char → Option (List Char)
  | '\n' :: rest => some rest
  | '\r' :: '\n' :: rest => some rest
  | _ => none

/-- Whether a character is a blank within a line. -/
def isLineBlank (c : Char) : Bool := c == ' ' || c == '\t'

/-- Drop the blanks within a line. -/
def skipLineBlanks (source : List Char) : List Char := source.dropWhile isLineBlank

/-- Drop blanks and line breaks. -/
def skipSpace : List Char → List Char
  | '\n' :: rest => skipSpace rest
  | '\r' :: '\n' :: rest => skipSpace rest
  | c :: rest => if isLineBlank c then skipSpace rest else c :: rest
  | [] => []

/-- The text after a backslash at the end of a line: all space after it is dropped. -/
def continueLine? (source : List Char) : Option (List Char) :=
  (takeNewline (skipLineBlanks source)).map skipSpace

/-- How a string is quoted: the quote, whether escapes have a meaning, and whether the string may
have line breaks. -/
structure QuoteStyle where
  quote : Char
  escapes : Bool
  multiline : Bool

/-- The content of a string after its opening quotes, and the text after its closing ones, in at
most `fuel` steps. Up to two quotes may stand right in front of three closing ones. -/
def readContent (style : QuoteStyle) : Nat → List Char → Option (List Char × List Char)
  | 0, _ => none
  | fuel + 1, source =>
    match source with
    | [] => none
    | c :: rest =>
      let go (chars : List Char) (rest : List Char) : Option (List Char × List Char) :=
        (readContent style fuel rest).map fun (content, rest) => (chars ++ content, rest)
      if c = style.quote then
        if !style.multiline then some ([], rest)
        else
          let quotes := source.takeWhile (· == style.quote)
          if quotes.length < 3 then go [c] rest
          else if quotes.length ≤ 5 then
            some (quotes.drop 3, source.drop quotes.length)
          else none
      else if c = '\\' && style.escapes then
        match style.multiline, continueLine? rest with
        | true, some rest => go [] rest
        | _, _ =>
          match readEscape rest with
          | some (c, rest) => go [c] rest
          | none => none
      else if isPlain c then go [c] rest
      else if style.multiline then
        match takeNewline source with
        | some after => go (source.take (source.length - after.length)) after
        | none => none
      else none

/-- A string with its quotes, and the text after it. A line break right after three opening quotes
does not count. -/
def readQuoted (source : List Char) : Option (String × List Char) :=
  let run (style : QuoteStyle) (rest : List Char) : Option (String × List Char) :=
    (readContent style (rest.length + 1) rest).map fun (content, rest) =>
      (String.ofList content, rest)
  match source with
  | '"' :: '"' :: '"' :: rest => run ⟨'"', true, true⟩ ((takeNewline rest).getD rest)
  | '\'' :: '\'' :: '\'' :: rest => run ⟨'\'', false, true⟩ ((takeNewline rest).getD rest)
  | '"' :: rest => run ⟨'"', true, false⟩ rest
  | '\'' :: rest => run ⟨'\'', false, false⟩ rest
  | _ => none

end KeyedCoding.Toml
