import KeyedCoding.Declaration.Member

/-!
# Modes of generation

## Main definitions

* `Mode`: whether code for encoding, decoding or both is generated.
* `Conformance`: what a class with the generated code can do.
-/

namespace KeyedCoding

/-- Whether code for encoding, for decoding or for both is generated. -/
inductive Mode where
  | encodeOnly
  | decodeOnly
  | both
  deriving DecidableEq, Repr

namespace Mode

/-- The name of a mode. -/
def name : Mode → String
  | encodeOnly => "EncodeOnly"
  | decodeOnly => "DecodeOnly"
  | both => "Both"

/-- All modes. -/
def all : List Mode := [encodeOnly, decodeOnly, both]

/-- The mode with a name. -/
def ofName? (text : String) : Option Mode := all.find? (·.name == text)

/-- The mode that a word names, in either case. -/
def ofText? (text : String) : Option Mode :=
  all.find? fun mode => lowerCase mode.name == lowerCase text

/-- How it is told that a text names no mode. -/
def unknownMessage : String := "Invalid `GenerationMode` string representation"

/-- Whether code for encoding is generated. -/
def encodes (mode : Mode) : Bool := mode != decodeOnly

/-- Whether code for decoding is generated. -/
def decodes (mode : Mode) : Bool := mode != encodeOnly

end Mode

/-- What a class with generated code can do: be encoded, be decoded, or both. -/
inductive Conformance where
  | encodable
  | decodable
  | codable
  deriving DecidableEq, Repr

namespace Conformance

/-- What code of a mode makes possible. -/
def ofMode : Mode → Conformance
  | .encodeOnly => encodable
  | .decodeOnly => decodable
  | .both => codable

/-- The name of the trait. -/
def name : Conformance → String
  | encodable => "Encodable"
  | decodable => "Decodable"
  | codable => "Codable"

/-- Whether a class can be encoded. -/
def encodes (conformance : Conformance) : Bool := conformance != decodable

/-- Whether a class can be decoded. -/
def decodes (conformance : Conformance) : Bool := conformance != encodable

/-- The path of the trait in the runtime library. -/
def traitPath (conformance : Conformance) (runtime : Path) : TokenStream :=
  runtime.tokens ++ TokenStream.symbol "::" ++ [.word conformance.name]

end Conformance

end KeyedCoding
