import KeyedCoding.Generated.Pieces

/-!
# Encoding an object

The function that encodes an object has a statement for each field.

## Main definitions

* `EncodeBody`: the statements of the function.
* `EncodeBody.tokens`: its code.
-/

namespace KeyedCoding

/-- The statement that encodes a field. -/
structure EncodeStatement where
  field : Ident
  presence : Presence
  deriving DecidableEq

/-- The function that encodes an object. -/
structure EncodeBody where
  keys : Ident
  runtime : Path
  statements : List EncodeStatement

namespace EncodeBody

/-- The function for objects with some fields. -/
def ofFields (context : Context) (fields : List Field) : EncodeBody where
  keys := context.keys
  runtime := context.runtime
  statements := fields.map fun field => ⟨field.ident, field.presence⟩

open TokenStream

/-- The name of the encoder. It starts with an underscore if the encoder is not used. -/
def encoderName (body : EncodeBody) : String :=
  if body.statements.isEmpty then "_encoder" else "encoder"

/-- The path of the trait of encoders. -/
def encoderTrait (body : EncodeBody) : TokenStream := below body.runtime.tokens "KeyedEncoder"

/-- The call that encodes a field. -/
def callTokens (body : EncodeBody) (statement : EncodeStatement) : TokenStream :=
  let encoder := symbol "&" ++ word "mut" ++ symbol "*" ++ word body.encoderName
  let key := below body.keys.tokens statement.field.text
  let value := symbol "&" ++ word "self" ++ symbol "." ++ statement.field.tokens
  match statement.presence with
  | .required =>
    below body.encoderTrait "encode" ++ [parens (commaSeparated [encoder, key, value])]
  | .ifPresent =>
    let value := below optionPath "as_ref" ++ [parens value]
    below body.encoderTrait "encode_if_present" ++ [parens (withCommas [encoder, key, value])]

/-- The statement that encodes a field. -/
def statementTokens (body : EncodeBody) (statement : EncodeStatement) : TokenStream :=
  body.callTokens statement ++ symbol "?" ++ symbol ";"

/-- The code of the function. -/
def tokens (body : EncodeBody) : TokenStream :=
  let encoder := word "__E"
  let params := symbol "&" ++ word "self" ++ symbol "," ++ word body.encoderName ++ symbol ":" ++
    symbol "&" ++ word "mut" ++ encoder
  let result := resultPath ++ symbol "<" ++ [parens []] ++ symbol "," ++ below encoder "Error" ++
    symbol ">"
  let bound := encoder ++ symbol ":" ++ body.encoderTrait ++ symbol "<" ++ below selfType "Keys" ++
    symbol ">" ++ symbol ","
  let finish := below resultPath "Ok" ++ [parens [parens []]]
  word "fn" ++ word "encode" ++ symbol "<" ++ encoder ++ symbol ">" ++ [parens params] ++
    symbol "->" ++ result ++ word "where" ++ bound ++
    [braces (body.statements.flatMap body.statementTokens ++ finish)]

end EncodeBody

end KeyedCoding
