import KeyedCoding.Json.Writer
import KeyedCoding.Text.Escape

/-!
# Why a value cannot be coded

## Main definitions

* `NumericKeyFault`: why the key of an object is no number.
* `Mismatch`: why a JSON value does not fit a type.
* `EncodeFault`: why a value has no JSON form.
* `CodingError`: the errors of keyed encoding and decoding.
-/

namespace KeyedCoding

/-- Why the text of a key is no number. Columns count from the start of the key. -/
inductive NumericKeyFault where
  /-- The key does not start like a number, or something follows the number. -/
  | notANumber
  | malformed (column : Nat)
  | unfinished (column : Nat)
  | outOfRange (column : Nat)
  deriving DecidableEq, Repr

namespace NumericKeyFault

/-- The text of a fault with the place where it was noticed. -/
private def withColumn (text : String) (column : Nat) : String :=
  s!"{text} at line 1 column {column}"

/-- How a fault is told. -/
def message : NumericKeyFault → String
  | notANumber => "invalid value: expected key to be a number in quotes"
  | malformed column => withColumn "invalid number" column
  | unfinished column => withColumn "EOF while parsing a value" column
  | outOfRange column => withColumn "number out of range" column

end NumericKeyFault

/-- Why a JSON value does not fit a type. -/
inductive Mismatch where
  /-- The value is of another kind. -/
  | wrongType (found : Json) (expected : String)
  /-- The value is of the right kind, but not one of the type. -/
  | wrongValue (found : Json) (expected : String)
  /-- An array has too few elements, or too many. -/
  | wrongLength (length : Nat) (expected : String)
  | wrongKey (fault : NumericKeyFault)
  /-- The number that a key spells does not fit. -/
  | misfitKey (mismatch : Mismatch) (column : Nat)

namespace Json

/-- How a mismatch describes the value that was found. -/
def description : Json → String
  | null => "null"
  | bool value => s!"boolean `{value}`"
  | integer value => s!"integer `{value}`"
  | float negative magnitude =>
    s!"floating point `{String.ofList (FloatStyle.double.text negative magnitude)}`"
  | string value => "string " ++ Text.quote value
  | array _ => "sequence"
  | object _ => "map"

end Json

namespace Mismatch

/-- How a mismatch is told. -/
def message : Mismatch → String
  | wrongType found expected => s!"invalid type: {found.description}, expected {expected}"
  | wrongValue found expected => s!"invalid value: {found.description}, expected {expected}"
  | wrongLength length expected => s!"invalid length {length}, expected {expected}"
  | wrongKey fault => fault.message
  | misfitKey mismatch column => s!"{mismatch.message} at line 1 column {column}"

end Mismatch

/-- Why a value has no JSON form. -/
inductive EncodeFault where
  /-- The key of a map is not written as text. -/
  | keyIsNoText
  /-- A whole number does not fit 64 bits. -/
  | numberOutOfRange
  deriving DecidableEq, Repr

namespace EncodeFault

/-- How a fault is told. -/
def message : EncodeFault → String
  | keyIsNoText => "key must be a string"
  | numberOutOfRange => "number out of range"

end EncodeFault

/-- The errors of keyed encoding and decoding. -/
inductive CodingError where
  /-- A required key is not there. -/
  | missingKey (key : String)
  /-- The value under a key does not fit the type of its field. -/
  | typeMismatch (key : String) (mismatch : Mismatch)
  /-- The value for a key cannot be encoded. -/
  | encode (key : String) (fault : EncodeFault)
  /-- Only an object has keys. -/
  | notAnObject (found : Json)
  /-- A text is no JSON. -/
  | malformedText

namespace CodingError

/-- How an error is told; malformed text is told by its place only, which is not kept. -/
def message : CodingError → String
  | missingKey key => s!"missing value for key '{key}'"
  | typeMismatch key mismatch =>
    s!"value for key '{key}' does not match the declared type: {mismatch.message}"
  | encode key fault => s!"failed to encode value for key '{key}': {fault.message}"
  | notAnObject found => s!"expected a keyed object, found {found.kind}"
  | malformedText => "malformed text"

end CodingError

end KeyedCoding
