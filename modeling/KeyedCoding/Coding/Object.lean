import KeyedCoding.Coding.Codec

/-!
# Objects with keyed values

A value is put into an object under a key, and got back from there. An optional value that is
absent leaves no entry, and both a missing entry and `null` are read as absent.

## Main definitions

* `Json.Entries.encode`, `Json.Entries.encodeIfPresent`: put a value under a key.
* `Json.entries?`: the entries of a JSON value, which must be an object.
* `Json.Entries.contains`, `Json.Entries.decode`, `Json.Entries.decodeIfPresent`: look at the value
  under a key.
* `resolveKey?`: the first of several keys with a text.
-/

namespace KeyedCoding

variable {α : Type}

/-- The entries of a JSON value; only an object has any. -/
def Json.entries? : Json → Except CodingError Json.Entries
  | .object entries => .ok entries
  | found => .error (.notAnObject found)

namespace Json.Entries

/-- Put a value under a key. -/
def encode (codec : Codec α) (key : String) (value : α) (entries : Entries) :
    Except CodingError Entries :=
  match codec.serialize value with
  | .ok json => .ok (entries.insert key json)
  | .error fault => .error (.encode key fault)

/-- Put a value under a key if there is one. -/
def encodeIfPresent (codec : Codec α) (key : String) (value : Option α) (entries : Entries) :
    Except CodingError Entries :=
  match value with
  | some value => entries.encode codec key value
  | none => .ok entries

/-- Whether there is an entry under a key, be it `null`. -/
def contains (key : String) (entries : Entries) : Bool := (entries.get? key).isSome

/-- The value that a JSON value under a key stands for. -/
def decodeAt (codec : Codec α) (key : String) (json : Json) : Except CodingError α :=
  match codec.deserialize json with
  | .ok value => .ok value
  | .error mismatch => .error (.typeMismatch key mismatch)

/-- The value under a key, which must be there. -/
def decode (codec : Codec α) (key : String) (entries : Entries) : Except CodingError α :=
  match entries.get? key with
  | none => .error (.missingKey key)
  | some json => decodeAt codec key json

/-- The value under a key, unless it is missing or `null`. -/
def decodeIfPresent (codec : Codec α) (key : String) (entries : Entries) :
    Except CodingError (Option α) :=
  match entries.get? key with
  | none => .ok none
  | some .null => .ok none
  | some json => (decodeAt codec key json).map some

end Json.Entries

/-- The place of the first of several keys with a text. -/
def resolveKey? (keys : List String) (text : String) : Option Nat := keys.findIdx? (· == text)

end KeyedCoding
