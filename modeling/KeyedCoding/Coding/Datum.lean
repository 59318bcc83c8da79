import KeyedCoding.Coding.Mismatch
import KeyedCoding.Number.IntegerType

/-!
# Values and their JSON form

## Main definitions

* `Datum`: a value of any of the types of a field.
* `Datum.serialize`: the JSON form of a value.
* `Datum.toText`: a value as JSON text, with the order of keys and the digits of its own type.
-/

namespace KeyedCoding

/-- A value of a type. The entries of a map are in ascending order of keys. -/
inductive Datum where
  | boolean (value : Bool)
  | integer (value : Int)
  | double (value : FloatValue)
  | single (value : FloatValue)
  | character (value : Char)
  | text (value : String)
  | unit
  | absent
  | present (value : Datum)
  /-- The elements of a list or an array. -/
  | list (elements : List Datum)
  | pair (first second : Datum)
  | textMap (entries : List (String × Datum))
  | byteMap (entries : List (Nat × Datum))
  | bytePairMap (entries : List ((Nat × Nat) × Datum))
  | json (value : Json)

/-! ### The JSON form of a value -/

namespace Datum

/-- A number with a fraction as JSON, which has no infinities. -/
def floatJson : FloatValue → Json
  | .finite negative magnitude => .float negative magnitude
  | _ => .null

/-- Whether a whole number fits 64 bits, with or without a sign. -/
def fitsJson (value : Int) : Bool :=
  IntegerType.holds ⟨true, 64⟩ value || IntegerType.holds ⟨false, 64⟩ value

mutual

/-- The JSON form of a value. -/
def serialize : Datum → Except EncodeFault Json
  | .boolean value => .ok (.bool value)
  | .integer value => if fitsJson value then .ok (.integer value) else .error .numberOutOfRange
  | .double value => .ok (floatJson value)
  | .single value => .ok (floatJson (value.convert .double))
  | .character value => .ok (.string (String.singleton value))
  | .text value => .ok (.string value)
  | .unit => .ok .null
  | .absent => .ok .null
  | .present value => serialize value
  | .list elements => (serializeAll elements).map .array
  | .pair first second =>
    match serialize first, serialize second with
    | .ok first, .ok second => .ok (.array [first, second])
    | .error fault, _ => .error fault
    | _, .error fault => .error fault
  | .textMap entries =>
    (serializeTextEntries entries).map fun entries => .object (Json.Entries.ofList entries)
  | .byteMap entries =>
    (serializeByteEntries entries).map fun entries => .object (Json.Entries.ofList entries)
  | .bytePairMap [] => .ok (.object [])
  | .bytePairMap (_ :: _) => .error .keyIsNoText
  | .json value => .ok value

/-- The JSON forms of values. -/
def serializeAll : List Datum → Except EncodeFault (List Json)
  | [] => .ok []
  | value :: rest =>
    match serialize value with
    | .ok value => (serializeAll rest).map (value :: ·)
    | .error fault => .error fault

/-- The JSON forms of the values of a map from texts. -/
def serializeTextEntries : List (String × Datum) → Except EncodeFault (List (String × Json))
  | [] => .ok []
  | (key, value) :: rest =>
    match serialize value with
    | .ok value => (serializeTextEntries rest).map ((key, value) :: ·)
    | .error fault => .error fault

/-- The JSON forms of the values of a map from bytes. -/
def serializeByteEntries : List (Nat × Datum) → Except EncodeFault (List (String × Json))
  | [] => .ok []
  | (key, value) :: rest =>
    match serialize value with
    | .ok value => (serializeByteEntries rest).map ((Nat.repr key, value) :: ·)
    | .error fault => .error fault

end

end Datum

/-! ### The text of a value -/

namespace Datum

/-- The text of a number with a fraction. -/
def floatChars (style : FloatStyle) : FloatValue → List Char
  | .finite negative magnitude => style.text negative magnitude
  | _ => Json.null.chars

mutual

/-- A value as JSON text. -/
def chars : Datum → List Char
  | .boolean value => (Json.bool value).chars
  | .integer value => Json.integerChars value
  | .double value => floatChars .double value
  | .single value => floatChars .single value
  | .character value => Json.quoted (String.singleton value)
  | .text value => Json.quoted value
  | .unit => Json.null.chars
  | .absent => Json.null.chars
  | .present value => chars value
  | .list elements => '[' :: elementChars elements ++ [']']
  | .pair first second => '[' :: chars first ++ ',' :: chars second ++ [']']
  | .textMap entries => '{' :: textEntryChars entries ++ ['}']
  | .byteMap entries => '{' :: byteEntryChars entries ++ ['}']
  | .bytePairMap _ => ['{', '}']
  | .json value => value.chars

/-- The texts of elements with commas between them. -/
def elementChars : List Datum → List Char
  | [] => []
  | [element] => chars element
  | element :: rest => chars element ++ ',' :: elementChars rest

/-- The texts of the entries of a map from texts. -/
def textEntryChars : List (String × Datum) → List Char
  | [] => []
  | [(key, value)] => Json.quoted key ++ ':' :: chars value
  | (key, value) :: rest => Json.quoted key ++ ':' :: (chars value ++ ',' :: textEntryChars rest)

/-- The texts of the entries of a map from bytes. -/
def byteEntryChars : List (Nat × Datum) → List Char
  | [] => []
  | [(key, value)] => Json.quoted (Nat.repr key) ++ ':' :: chars value
  | (key, value) :: rest =>
    Json.quoted (Nat.repr key) ++ ':' :: (chars value ++ ',' :: byteEntryChars rest)

end

/-- A value as JSON text. -/
def toText (value : Datum) : String := String.ofList value.chars

end Datum

end KeyedCoding
