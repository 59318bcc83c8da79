import KeyedCoding.Generated.DecodeBody
import KeyedCoding.Generated.EncodeBody
import KeyedCoding.Generated.Initializer
import KeyedCoding.Generated.KeyMapping
import KeyedCoding.Generator.Mode

/-!
# Generated code

The code for a class has up to four fragments: its keys, how objects are made, and the functions
that encode and decode them, as far as the mode asks for these.

## Main definitions

* `Artifact`: the code for a class.
* `Fragment`, `Artifact.fragments`: its fragments.
* `Artifact.tokens?`: all of its code.
-/

namespace KeyedCoding

/-- The code for a class. -/
structure Artifact where
  target : Ident
  runtime : Path
  mode : Mode
  keyMapping : KeyMapping
  initializer : Initializer
  encode : Option EncodeBody
  decode : Option DecodeBody
  conformances : List Conformance

/-- A part of generated code. -/
inductive Fragment where
  | keyMapping (mapping : KeyMapping)
  | initializer (initializer : Initializer)
  | encode (body : EncodeBody)
  | decode (body : DecodeBody)

namespace Fragment

/-- The name of a fragment. -/
def name : Fragment → String
  | keyMapping _ => "key_mapping"
  | initializer _ => "initializer"
  | encode _ => "encode"
  | decode _ => "decode"

/-- The code of a fragment, if all setters have an identifier. -/
def tokens? : Fragment → Option TokenStream
  | keyMapping mapping => some mapping.tokens
  | initializer content => content.tokens?
  | encode body => some body.tokens
  | decode body => some body.tokens

end Fragment

namespace Artifact

open TokenStream

/-- The code that is generated for fields in a context. -/
def ofFields (context : Context) (mode : Mode) (fields : List Field) : Artifact where
  target := context.target
  runtime := context.runtime
  mode := mode
  keyMapping := .ofFields context fields
  initializer := .ofFields context fields
  encode := if mode.encodes then some (.ofFields context fields) else none
  decode := if mode.decodes then some (.ofFields context fields) else none
  conformances := [.ofMode mode]

/-- The fragments of the code in their order. -/
def fragments (artifact : Artifact) : List Fragment :=
  [.keyMapping artifact.keyMapping, .initializer artifact.initializer] ++
    (artifact.encode.map Fragment.encode).toList ++ (artifact.decode.map Fragment.decode).toList

/-- The implementation of a trait of the runtime library with a function. -/
def implTokens (artifact : Artifact) (conformance : Conformance) (body : TokenStream) :
    TokenStream :=
  word "impl" ++ conformance.traitPath artifact.runtime ++ word "for" ++ artifact.target.tokens ++
    [braces (word "type" ++ word "Keys" ++ symbol "=" ++ artifact.keyMapping.ident.tokens ++
      symbol ";" ++ body)]

/-- The implementations that make a conformance hold. -/
def conformanceTokens (artifact : Artifact) (conformance : Conformance) : TokenStream :=
  let encode := if conformance.encodes then artifact.encode else none
  let decode := if conformance.decodes then artifact.decode else none
  (encode.map fun body => artifact.implTokens .encodable body.tokens).getD [] ++
    (decode.map fun body => artifact.implTokens .decodable body.tokens).getD []

/-- All code for a class, if all setters have an identifier. -/
def tokens? (artifact : Artifact) : Option TokenStream :=
  artifact.initializer.tokens?.map fun initializer =>
    artifact.keyMapping.tokens ++ initializer ++
      artifact.conformances.flatMap artifact.conformanceTokens

end Artifact

end KeyedCoding
