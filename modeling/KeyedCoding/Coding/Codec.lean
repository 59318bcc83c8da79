import KeyedCoding.Coding.Mismatch

/-!
# Codecs

A codec turns the values of a type into JSON and back.

## Main definitions

* `Codec`: the two directions.
* `Codec.Faithful`: encoding gives back every JSON value that can be decoded.
-/

namespace KeyedCoding

/-- The two directions between the values of a type and JSON. -/
structure Codec (α : Type) where
  serialize : α → Except EncodeFault Json
  deserialize : Json → Except Mismatch α

namespace Codec

variable {α : Type}

/-- Encoding gives back every JSON value that can be decoded. -/
def Faithful (codec : Codec α) : Prop :=
  ∀ json value, codec.deserialize json = .ok value → codec.serialize value = .ok json

end Codec

end KeyedCoding
