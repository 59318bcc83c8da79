import KeyedCoding.Coding.Codec
import KeyedCoding.Coding.Datum
import KeyedCoding.Coding.NumericKey

/-!
# Decoding values

## Main definitions

* `ValueType.deserialize`: the value of a type that a JSON value stands for.
* `ValueType.codec`: the codec of a type.
-/

namespace KeyedCoding

/-- Put a value under a key in entries that ascend by `less`, in place of what was there. -/
def insertEntry {κ ν : Type} [DecidableEq κ] (less : κ → κ → Bool) (key : κ) (value : ν) :
    List (κ × ν) → List (κ × ν)
  | [] => [(key, value)]
  | (key', value') :: rest =>
    if key = key' then (key, value) :: rest
    else if less key key' then (key, value) :: (key', value') :: rest
    else (key', value') :: insertEntry less key value rest

namespace ValueType

/-- Decode elements in order, up to the first one that does not fit. -/
def decodeAll (decode : Json → Except Mismatch Datum) : List Json → Except Mismatch (List Datum)
  | [] => .ok []
  | element :: rest =>
    match decode element with
    | .ok value => (decodeAll decode rest).map (value :: ·)
    | .error mismatch => .error mismatch

/-- Decode entries in order, up to the first one whose key or value does not fit. -/
def decodeEntries {κ : Type} (decodeKey : String → Except Mismatch κ)
    (decode : Json → Except Mismatch Datum) :
    List (String × Json) → Except Mismatch (List (κ × Datum))
  | [] => .ok []
  | (key, element) :: rest =>
    match decodeKey key with
    | .error mismatch => .error mismatch
    | .ok key =>
      match decode element with
      | .ok value => (decodeEntries decodeKey decode rest).map ((key, value) :: ·)
      | .error mismatch => .error mismatch

/-- How a mismatch names an array of a fixed length. -/
def arrayName (length : Nat) : String := s!"an array of length {length}"

/-- A number with a fraction that a JSON value stands for. -/
def decodeFloat (format : BinaryFormat) (name : String) : Json → Except Mismatch FloatValue
  | .integer value => .ok (.ofInt format value)
  | .float negative magnitude => .ok ((FloatValue.finite negative magnitude).convert format)
  | found => .error (.wrongType found name)

/-- The value of a type that a JSON value stands for. -/
def deserialize : ValueType → Json → Except Mismatch Datum
  | boolean, .bool value => .ok (.boolean value)
  | boolean, found => .error (.wrongType found "a boolean")
  | integer type, .integer value =>
    if type.holds value then .ok (.integer value)
    else .error (.wrongValue (.integer value) type.name)
  | integer type, found => .error (.wrongType found type.name)
  | double, found => (decodeFloat .double "f64" found).map .double
  | single, found => (decodeFloat .single "f32" found).map .single
  | character, .string value =>
    match value.toList with
    | [c] => .ok (.character c)
    | _ => .error (.wrongValue (.string value) "a character")
  | character, found => .error (.wrongType found "a character")
  | text, .string value => .ok (.text value)
  | text, found => .error (.wrongType found "a string")
  | unit, .null => .ok .unit
  | unit, found => .error (.wrongType found "unit")
  | list element, .array elements => (decodeAll element.deserialize elements).map .list
  | list _, found => .error (.wrongType found "a sequence")
  | optional _, .null => .ok .absent
  | optional value, found => (value.deserialize found).map .present
  | pair first second, .array elements =>
    match elements with
    | [] => .error (.wrongLength 0 "a tuple of size 2")
    | element :: rest =>
      match first.deserialize element, rest with
      | .error mismatch, _ => .error mismatch
      | .ok _, [] => .error (.wrongLength 1 "a tuple of size 2")
      | .ok first, element :: rest =>
        match second.deserialize element with
        | .error mismatch => .error mismatch
        | .ok second =>
          if rest.isEmpty then .ok (.pair first second)
          else .error (.wrongLength elements.length "fewer elements in array")
  | pair _ _, found => .error (.wrongType found "a tuple of size 2")
  | array element length, .array elements =>
    match decodeAll element.deserialize (elements.take length) with
    | .error mismatch => .error mismatch
    | .ok values =>
      if elements.length < length then .error (.wrongLength elements.length (arrayName length))
      else if length < elements.length then
        .error (.wrongLength elements.length "fewer elements in array")
      else .ok (.list values)
  | array _ length, found => .error (.wrongType found (arrayName length))
  | textMap value, .object entries =>
    (decodeEntries .ok value.deserialize entries).map .textMap
  | textMap _, found => .error (.wrongType found "a map")
  | byteMap value, .object entries =>
    (decodeEntries NumericKey.toByte? value.deserialize entries).map fun entries =>
      .byteMap (entries.foldl
        (fun entries (key, value) => insertEntry (fun a b => decide (a < b)) key value entries) [])
  | byteMap _, found => .error (.wrongType found "a map")
  | bytePairMap _, found => .error (.wrongType found "a map")
  | json, found => .ok (.json found)

/-- The codec of a type. -/
def codec (type : ValueType) : Codec Datum := ⟨Datum.serialize, type.deserialize⟩

end ValueType

end KeyedCoding
