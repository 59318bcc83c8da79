import KeyedCoding.Text.CharClass

/-!
# Quoted text

How a text is written between double quotes, one character at a time: a few characters have a
short escape, those without a visible form are shown by their code point, and all others stand
for themselves.

## Main definitions

* `hexDigit?`: the value of a hexadecimal digit.
* `codePointEscape`: a character shown by its code point.
* `quotedChar`: a character between double quotes.
* `quote`: a text between double quotes.
-/

namespace KeyedCoding.Text

/-- The value of a hexadecimal digit, in either case. -/
def hexDigit? (c : Char) : Option Nat :=
  if '0' ≤ c ∧ c ≤ '9' then some (c.toNat - 0x30)
  else if 'a' ≤ c ∧ c ≤ 'f' then some (c.toNat - 0x57)
  else if 'A' ≤ c ∧ c ≤ 'F' then some (c.toNat - 0x37)
  else none

/-- A character shown by its code point in hexadecimal, as in `\u{e9}`. -/
def codePointEscape (c : Char) : List Char :=
  ['\\', 'u', '{'] ++ Nat.toDigits 16 c.toNat ++ ['}']

/-- A character between double quotes. -/
def quotedChar (c : Char) : List Char :=
  if c = '\t' then ['\\', 't']
  else if c = '\r' then ['\\', 'r']
  else if c = '\n' then ['\\', 'n']
  else if c = '\\' then ['\\', '\\']
  else if c = '"' then ['\\', '"']
  else if isShownByCode c then codePointEscape c
  else [c]

/-- A character between double quotes, where the null character has a short escape too. -/
def quotedCharOrNull (c : Char) : List Char :=
  if c = '\x00' then ['\\', '0'] else quotedChar c

/-- A text between double quotes. -/
def quote (text : String) : String :=
  String.ofList ('"' :: text.toList.flatMap quotedCharOrNull ++ ['"'])

end KeyedCoding.Text
