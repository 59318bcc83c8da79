import KeyedCoding.Number.IntegerType

/-!
# Types of values

The types that the fields of a record may have, and their names.

## Main definitions

* `ValueType`: the types.
* `ValueType.ofName?`: the type with a name.
-/

namespace KeyedCoding

/-- The types that a field may have. -/
inductive ValueType where
  | boolean
  | integer (type : IntegerType)
  /-- Numbers of 64 bits with a fraction. -/
  | double
  /-- Numbers of 32 bits with a fraction. -/
  | single
  | character
  | text
  | unit
  | list (element : ValueType)
  | optional (value : ValueType)
  | pair (first second : ValueType)
  | array (element : ValueType) (length : Nat)
  | textMap (value : ValueType)
  /-- A map whose keys are bytes. -/
  | byteMap (value : ValueType)
  /-- A map whose keys are pairs of bytes, which has a JSON form only if it is empty. -/
  | bytePairMap (value : ValueType)
  /-- Any JSON value. -/
  | json
  deriving DecidableEq, Repr

namespace ValueType

/-- The types by their names. -/
def names : List (String × ValueType) :=
  [("bool", boolean), ("i8", integer ⟨true, 8⟩), ("i16", integer ⟨true, 16⟩),
   ("i32", integer ⟨true, 32⟩), ("i64", integer ⟨true, 64⟩), ("i128", integer ⟨true, 128⟩),
   ("u8", integer ⟨false, 8⟩), ("u16", integer ⟨false, 16⟩), ("u32", integer ⟨false, 32⟩),
   ("u64", integer ⟨false, 64⟩), ("u128", integer ⟨false, 128⟩), ("f32", single), ("f64", double),
   ("char", character), ("String", text), ("()", unit), ("Vec<u8>", list (integer .byte)),
   ("Vec<String>", list text), ("Vec<Option<i32>>", list (optional (integer ⟨true, 32⟩))),
   ("Option<u8>", optional (integer .byte)), ("Option<String>", optional text),
   ("(u8, String)", pair (integer .byte) text), ("[u8; 3]", array (integer .byte) 3),
   ("BTreeMap<String, i64>", textMap (integer ⟨true, 64⟩)), ("BTreeMap<u8, bool>", byteMap boolean),
   ("BTreeMap<(u8, u8), bool>", bytePairMap boolean), ("Value", json)]

/-- The type with a name. -/
def ofName? (name : String) : Option ValueType := names.lookup name

/-- Whether the values of a type can be decoded. -/
def isDecodable : ValueType → Bool
  | bytePairMap _ => false
  | _ => true

end ValueType

end KeyedCoding
