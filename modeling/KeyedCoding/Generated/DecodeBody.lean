import KeyedCoding.Generated.Pieces

/-!
# Decoding an object

The function that decodes an object reads the value of each field.

## Main definitions

* `DecodeBody`: the statements of the function.
* `DecodeBody.tokens`: its code.
-/

namespace KeyedCoding

/-- The statement that decodes a field: the type of the value that is read, and whether it may be
absent. -/
structure DecodeStatement where
  field : Ident
  ty : Ty
  presence : Presence

/-- The function that decodes an object. -/
structure DecodeBody where
  keys : Ident
  runtime : Path
  statements : List DecodeStatement

namespace DecodeBody

/-- The function for objects with some fields. -/
def ofFields (context : Context) (fields : List Field) : DecodeBody where
  keys := context.keys
  runtime := context.runtime
  statements := fields.map fun field => ⟨field.ident, field.valueType, field.presence⟩

open TokenStream

/-- The name of the decoder. It starts with an underscore if the decoder is not used. -/
def decoderName (body : DecodeBody) : String :=
  if body.statements.isEmpty then "_decoder" else "decoder"

/-- The path of the trait of decoders. -/
def decoderTrait (body : DecodeBody) : TokenStream := below body.runtime.tokens "KeyedDecoder"

/-- The function of the decoder that reads a value. -/
def readerName : Presence → String
  | .required => "decode"
  | .ifPresent => "decode_if_present"

/-- The call that reads the value of a field. -/
def callTokens (body : DecodeBody) (statement : DecodeStatement) : TokenStream :=
  let key := below body.keys.tokens statement.field.text
  below body.decoderTrait (readerName statement.presence) ++ symbol "::" ++ symbol "<" ++
    statement.ty.tokens ++ symbol ">" ++ [parens (commaSeparated [word body.decoderName, key])]

/-- A field with the value that is read. -/
def readTokens (body : DecodeBody) (statement : DecodeStatement) : TokenStream :=
  statement.field.tokens ++ symbol ":" ++ body.callTokens statement ++ symbol "?"

/-- The code of the function. -/
def tokens (body : DecodeBody) : TokenStream :=
  let decoder := word "__D"
  let params := word body.decoderName ++ symbol ":" ++ symbol "&" ++ decoder
  let result := resultPath ++ symbol "<" ++ commaSeparated [selfType, below decoder "Error"] ++
    symbol ">"
  let bound := decoder ++ symbol ":" ++ body.decoderTrait ++ symbol "<" ++ below selfType "Keys" ++
    symbol ">" ++ symbol ","
  let value := selfType ++ [braces (withCommas (body.statements.map body.readTokens))]
  word "fn" ++ word "decode" ++ symbol "<" ++ decoder ++ symbol ">" ++ [parens params] ++
    symbol "->" ++ result ++ word "where" ++ bound ++
    [braces (below resultPath "Ok" ++ [parens value])]

end DecodeBody

end KeyedCoding
