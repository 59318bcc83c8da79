import KeyedCoding.Text.AlphanumericTable
import KeyedCoding.Text.IdentifierTable
import KeyedCoding.Text.PrintableTable

/-!
# Classes of characters

The predicates by which source text is cut into tokens and by which text is quoted. ASCII
characters are decided by rule, all others by the range tables.

## Main definitions

* `isIdentifierStart`, `isIdentifierContinue`: the characters of an identifier.
* `isAlphanumeric`: letters and numbers of any script.
* `isBlank`: the characters that separate tokens.
* `isShownByCode`: the characters that a quoted text shows by their code point.
-/

namespace KeyedCoding.Text

/-- Whether a character is one of the 128 of the ASCII range. -/
def isAscii (c : Char) : Bool := c.toNat < 0x80

/-- Letters and the underscore start an identifier. -/
def isIdentifierStart (c : Char) : Bool :=
  if isAscii c then c.isAlpha || c == '_'
  else CodeRange.covers identifierStartRanges c.toNat

/-- Inside an identifier digits and combining marks may stand as well. -/
def isIdentifierContinue (c : Char) : Bool :=
  isIdentifierStart c ||
    if isAscii c then c.isDigit
    else CodeRange.covers identifierContinueOnlyRanges c.toNat

theorem isIdentifierContinue_of_start {c : Char} (h : isIdentifierStart c = true) :
    isIdentifierContinue c = true := by
  simp [isIdentifierContinue, h]

/-- Letters and numbers of any script; the underscore is neither. -/
def isAlphanumeric (c : Char) : Bool :=
  if isAscii c then c.isAlphanum
  else CodeRange.covers alphanumericRanges c.toNat

/-- The code points that separate tokens: white space, and the two marks of writing direction. -/
def blankCodes : List Nat :=
  [0x09, 0x0A, 0x0B, 0x0C, 0x0D, 0x20, 0x85, 0xA0, 0x1680, 0x2000, 0x2001, 0x2002, 0x2003, 0x2004,
   0x2005, 0x2006, 0x2007, 0x2008, 0x2009, 0x200A, 0x200E, 0x200F, 0x2028, 0x2029, 0x202F, 0x205F,
   0x3000]

/-- Whether a character separates tokens. -/
def isBlank (c : Char) : Bool := blankCodes.contains c.toNat

/-- A quoted text shows controls, invisible characters and attaching marks by their code point. -/
def isShownByCode (c : Char) : Bool :=
  if isAscii c then c.toNat < 0x20 || c.toNat == 0x7F
  else CodeRange.covers graphemeExtendRanges c.toNat || CodeRange.covers invisibleRanges c.toNat

end KeyedCoding.Text
