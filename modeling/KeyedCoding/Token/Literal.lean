import KeyedCoding.Text.Escape

/-!
# Reading literals

A literal at the start of a text is read as its value and the text after it. Quoted literals
share one reader, told apart by a record of rules; numbers follow it.

## Main definitions

* `Literal.QuoteRules`: what may stand between the quotes of a kind of literal.
* `Literal.Value`: what a literal denotes.
* `Literal.read`: the value of the literal at the start of a text, and the text after it.
* `Literal.quoteText`: a string literal for a text.
-/

namespace KeyedCoding.Literal

open Text

/-- What a literal denotes. Bytes, byte strings and strings with a final null have no text of
their own, so their value is not kept. -/
inductive Value where
  | text (value : String)
  | character (value : Char)
  | integer (magnitude : Nat)
  /-- The digits, the point and the exponent of a number with a fraction, without a sign. -/
  | fraction (digits : String)
  | boolean (value : Bool)
  | bytes
  | byte
  | nullEnded
  deriving DecidableEq, Repr

/-! ### Suffixes and escapes -/

/-- Drop the word that may follow a literal without a space. -/
def skipSuffix : List Char → List Char
  | c :: rest => if isIdentifierStart c then rest.dropWhile isIdentifierContinue else c :: rest
  | [] => []

/-- What may stand between the quotes of a kind of literal. -/
structure QuoteRules where
  /-- Whether a two-digit escape with these digits is allowed. -/
  byteEscape : Nat → Nat → Bool
  /-- Whether a code point escape for this character is allowed. -/
  codeEscape : Char → Bool
  /-- Whether the null character has its short escape. -/
  nullEscape : Bool
  /-- Whether a character may stand for itself. -/
  plain : Char → Bool

/-- Characters and strings hold any character, and two-digit escapes below `0x80`. -/
def textRules : QuoteRules := ⟨fun high _ => high < 8, fun _ => true, true, fun _ => true⟩

/-- Bytes and byte strings hold ASCII characters and any two-digit escape. -/
def byteRules : QuoteRules := ⟨fun _ _ => true, fun _ => false, true, isAscii⟩

/-- Strings with a final null hold no other null. -/
def nullEndedRules : QuoteRules :=
  ⟨fun high low => high != 0 || low != 0, (· != '\x00'), false, (· != '\x00')⟩

/-- The digits of a code point escape after its brace: its value, and the text after the closing
brace. At most six digits; underscores may stand after the first. -/
def readCodeDigits (value count : Nat) : List Char → Option (Nat × List Char)
  | [] => none
  | c :: rest =>
    match hexDigit? c with
    | some digit => if count < 6 then readCodeDigits (value * 16 + digit) (count + 1) rest else none
    | none =>
      if count = 0 then none
      else if c = '_' then readCodeDigits value count rest
      else if c = '}' then some (value, rest)
      else none

/-- The character with a code point, if there is one. -/
def charOfCode? (code : Nat) : Option Char :=
  if code.isValidChar then some (Char.ofNat code) else none

/-- The short escapes besides that of the null character. -/
def shortEscape? : Char → Option Char
  | 'n' => some '\n'
  | 'r' => some '\r'
  | 't' => some '\t'
  | '\\' => some '\\'
  | '\x27' => some '\x27'
  | '"' => some '"'
  | _ => none

/-- The character of an escape and the text after it, given the text after its backslash. -/
def readEscape (rules : QuoteRules) : List Char → Option (Char × List Char)
  | 'x' :: high :: low :: rest =>
    match hexDigit? high, hexDigit? low with
    | some high, some low =>
      if rules.byteEscape high low then some (Char.ofNat (high * 16 + low), rest) else none
    | _, _ => none
  | 'u' :: '{' :: rest =>
    match readCodeDigits 0 0 rest with
    | some (code, rest) =>
      match charOfCode? code with
      | some c => if rules.codeEscape c then some (c, rest) else none
      | none => none
    | none => none
  | '0' :: rest => if rules.nullEscape then some ('\x00', rest) else none
  | c :: rest => (shortEscape? c).map fun c => (c, rest)
  | [] => none

/-- The text after the blanks that continue a line, which must not be the last of all. -/
def skipContinuation : List Char → Option (List Char)
  | [] => none
  | '\r' :: '\n' :: rest => skipContinuation rest
  | '\r' :: _ => none
  | c :: rest => if c = ' ' ∨ c = '\t' ∨ c = '\n' then skipContinuation rest else some (c :: rest)

/-! ### Quoted literals -/

/-- Put a character in front of what has been read. -/
def consValue (c : Char) : Option (List Char × List Char) → Option (List Char × List Char)
  | some (value, rest) => some (c :: value, rest)
  | none => none

/-- The value of a string after its opening quote, and the text after its closing quote. A
carriage return may stand only before a line feed and is dropped; a backslash at the end of a line
joins it with the next one. -/
def readQuoted (rules : QuoteRules) : Nat → List Char → Option (List Char × List Char)
  | 0, _ => none
  | fuel + 1, source =>
    match source with
    | [] => none
    | '"' :: rest => some ([], rest)
    | '\r' :: '\n' :: rest => consValue '\n' (readQuoted rules fuel rest)
    | '\r' :: _ => none
    | '\\' :: '\n' :: rest => (skipContinuation rest).bind (readQuoted rules fuel)
    | '\\' :: '\r' :: '\n' :: rest => (skipContinuation rest).bind (readQuoted rules fuel)
    | '\\' :: rest =>
      match readEscape rules rest with
      | some (c, rest) => consValue c (readQuoted rules fuel rest)
      | none => none
    | c :: rest => if rules.plain c then consValue c (readQuoted rules fuel rest) else none

/-- Drop a number of hashes. -/
def dropHashes : Nat → List Char → Option (List Char)
  | 0, source => some source
  | count + 1, '#' :: rest => dropHashes count rest
  | _, _ => none

/-- The content of a raw string up to a quote and so many hashes, and the text after them. -/
def readRawContent (plain : Char → Bool) (hashes : Nat) :
    List Char → Option (List Char × List Char)
  | [] => none
  | '"' :: rest =>
    match dropHashes hashes rest with
    | some rest => some ([], rest)
    | none => consValue '"' (readRawContent plain hashes rest)
  | '\r' :: '\n' :: rest =>
    consValue '\r' (consValue '\n' (readRawContent plain hashes rest))
  | '\r' :: _ => none
  | c :: rest => if plain c then consValue c (readRawContent plain hashes rest) else none

/-- The content of a raw string, whose hashes come first, and the text after it. -/
def readRaw (plain : Char → Bool) (source : List Char) : Option (List Char × List Char) :=
  let hashes := (source.takeWhile (· == '#')).length
  match source.dropWhile (· == '#') with
  | '"' :: rest => if hashes ≤ 255 then readRawContent plain hashes rest else none
  | _ => none

/-- The character after an opening apostrophe, and the text after the closing one. -/
def readSingle (rules : QuoteRules) (source : List Char) : Option (Char × List Char) :=
  let read := match source with
    | [] => none
    | '\\' :: rest => readEscape rules rest
    | c :: rest => if rules.plain c then some (c, rest) else none
  match read with
  | some (c, '\x27' :: rest) => some (c, rest)
  | _ => none

/-- The value of a quoted literal, and the text after it, without regard to a suffix. -/
def readQuotedLiteral : List Char → Option (Value × List Char)
  | '"' :: rest => (readQuoted textRules rest.length rest).map ofText
  | 'r' :: rest => (readRaw textRules.plain rest).map ofText
  | 'b' :: '"' :: rest =>
    (readQuoted byteRules rest.length rest).map fun (_, rest) => (.bytes, rest)
  | 'b' :: 'r' :: rest => (readRaw byteRules.plain rest).map fun (_, rest) => (.bytes, rest)
  | 'c' :: '"' :: rest =>
    (readQuoted nullEndedRules rest.length rest).map fun (_, rest) => (.nullEnded, rest)
  | 'c' :: 'r' :: rest =>
    (readRaw nullEndedRules.plain rest).map fun (_, rest) => (.nullEnded, rest)
  | 'b' :: '\x27' :: rest => (readSingle byteRules rest).map fun (_, rest) => (.byte, rest)
  | '\x27' :: rest => (readSingle textRules rest).map fun (c, rest) => (.character c, rest)
  | _ => none
where
  /-- A string as the value of a literal. -/
  ofText : List Char × List Char → Value × List Char
    | (value, rest) => (.text (String.ofList value), rest)

/-! ### Numbers -/

/-- Whether a digit or an underscore. -/
def isDigitOrUnderscore (c : Char) : Bool := c.isDigit || c == '_'

/-- The text after the exponent of a number, given the text after its `e`: an optional sign, then
digits and underscores with at least one digit. -/
def skipExponent (source : List Char) : Option (List Char) :=
  let source := source.dropWhile (· == '_')
  let source := match source with
    | '+' :: rest => rest
    | '-' :: rest => rest
    | _ => source
  if (source.takeWhile isDigitOrUnderscore).any Char.isDigit then
    some (source.dropWhile isDigitOrUnderscore)
  else none

/-- Whether a test holds of the first character of a text. -/
def startsWith (test : Char → Bool) : List Char → Bool
  | c :: _ => test c
  | [] => false

/-- The text after the digits of a number with a point or an exponent. A point is not part of the
number if another one, or a word, follows it; a mark of exponent without digits starts the
suffix. -/
def skipFraction : List Char → Option (List Char)
  | [] => none
  | c :: rest =>
    if !c.isDigit then none
    else match rest.dropWhile isDigitOrUnderscore with
      | '.' :: rest =>
        if startsWith (fun c => c == '.' || isIdentifierStart c) rest then none
        else
          let rest := rest.dropWhile isDigitOrUnderscore
          match rest with
          | 'e' :: digits => some ((skipExponent digits).getD rest)
          | 'E' :: digits => some ((skipExponent digits).getD rest)
          | _ => some rest
      | 'e' :: digits => skipExponent digits
      | 'E' :: digits => skipExponent digits
      | _ => none

/-- The first characters of `source`, up to `rest`. -/
def textBetween (source rest : List Char) : List Char :=
  source.take (source.length - rest.length)

/-- The digits of a number with a fraction as they are shown: without underscores, without the
plus sign of the exponent, and with a small `e`. -/
def fractionDigits (source : List Char) : List Char :=
  (source.filter fun c => c != '_' && c != '+').map fun c => if c = 'E' then 'e' else c

/-- The value of a whole number in a base and the text after its digits, given the value of the
digits before them, if any. A decimal digit beyond the base spoils the number, a letter beyond it
ends it. -/
def readDigits (base : Nat) : Option Nat → List Char → Option (Nat × List Char)
  | value, [] => value.map fun value => (value, [])
  | value, c :: rest =>
    match hexDigit? c with
    | some digit =>
      if digit < base then readDigits base (some (value.getD 0 * base + digit)) rest
      else if c.isDigit then none
      else value.map fun value => (value, c :: rest)
    | none =>
      if c = '_' then
        if value.isNone && base == 10 then none else readDigits base value rest
      else value.map fun value => (value, c :: rest)

/-- The value of a whole number, whose base may be marked, and the text after its digits. -/
def readWhole : List Char → Option (Nat × List Char)
  | '0' :: 'x' :: rest => readDigits 16 none rest
  | '0' :: 'o' :: rest => readDigits 8 none rest
  | '0' :: 'b' :: rest => readDigits 2 none rest
  | source => readDigits 10 none source

/-- The text after the suffix of a number, which must end the word. -/
def skipNumberEnd (source : List Char) : Option (List Char) :=
  let rest := skipSuffix source
  if startsWith isIdentifierContinue rest then none else some rest

/-- The value of a number with a fraction, and the text after it and its suffix. -/
def readFraction (source : List Char) : Option (Value × List Char) :=
  match skipFraction source with
  | some rest =>
    (skipNumberEnd rest).map fun after =>
      (.fraction (String.ofList (fractionDigits (textBetween source rest))), after)
  | none => none

/-- The value of a whole number, and the text after it and its suffix. -/
def readInteger (source : List Char) : Option (Value × List Char) :=
  match readWhole source with
  | some (value, rest) => (skipNumberEnd rest).map fun after => (.integer value, after)
  | none => none

/-- The value of the literal at the start of a text, and the text after it and its suffix. -/
def read (source : List Char) : Option (Value × List Char) :=
  match readQuotedLiteral source with
  | some (value, rest) => some (value, skipSuffix rest)
  | none => (readFraction source).or (readInteger source)

/-! ### Writing strings -/

/-- The characters between the quotes of a string literal. The null character has a short escape,
except before an octal digit, which would seem to belong to it; an apostrophe needs no escape. -/
def quoteChars : List Char → List Char
  | [] => []
  | c :: rest =>
    let escaped :=
      if c = '\x00' then
        if startsWith (fun next => '0' ≤ next && next ≤ '7') rest then ['\\', 'x', '0', '0']
        else ['\\', '0']
      else quotedChar c
    escaped ++ quoteChars rest

/-- A string literal for a text. -/
def quoteText (text : String) : String := String.ofList ('"' :: quoteChars text.toList ++ ['"'])

end KeyedCoding.Literal
