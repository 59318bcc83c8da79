import KeyedCoding.Coding.Decoding
import KeyedCoding.Number.DecimalText

/-!
# Writing values down

A value of any type can be written down as JSON, also where its own JSON form would lose it: a
number that JSON cannot hold is written as a text, and a map whose keys are no texts as a list of
pairs.

## Main definitions

* `ValueType.ofWritten?`: the value of a type that is written down as a JSON value.
-/

namespace KeyedCoding.ValueType

/-- A key and a value that are written down as a pair. -/
def entryOfWritten? (value : ValueType) (json : Json) : Option ((Nat × Nat) × Datum) :=
  let entry := pair (pair (integer .byte) (integer .byte)) value
  match entry.deserialize json with
  | .ok (.pair (.pair (.integer first) (.integer second)) value) =>
    some ((first.toNat, second.toNat), value)
  | _ => none

/-- Whether a pair comes before another one. -/
def isPairBefore (a b : Nat × Nat) : Bool := a.1 < b.1 || (a.1 == b.1 && a.2 < b.2)

/-- The value of a type that is written down as a JSON value. -/
def ofWritten? (type : ValueType) (json : Json) : Option Datum :=
  match type, json with
  | double, .string source => (FloatValue.ofText? .double source).map .double
  | single, .string source => (FloatValue.ofText? .single source).map .single
  | integer type, .string source =>
    match wholeOfText? source with
    | some value =>
      let signFits := type.signed || !source.startsWith "-"
      if type.bits = 128 && signFits && type.holds value then some (.integer value) else none
    | none => none
  | bytePairMap value, .array elements =>
    (elements.mapM (entryOfWritten? value)).map fun entries =>
      .bytePairMap (entries.foldl
        (fun entries (key, value) => insertEntry isPairBefore key value entries) [])
  | bytePairMap _, _ => none
  | type, json => (type.deserialize json).toOption

end KeyedCoding.ValueType
