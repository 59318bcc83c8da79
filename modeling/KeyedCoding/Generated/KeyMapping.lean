import KeyedCoding.Generated.Pieces

/-!
# The keys of a class

The keys of a class are generated as an enumeration with a case for each field.

## Main definitions

* `KeyMapping`: the cases of the enumeration with their keys.
* `KeyMapping.keyFor?`, `KeyMapping.pairs`, `KeyMapping.resolve?`: look keys up.
* `KeyMapping.tokens`: the code of the enumeration.
-/

namespace KeyedCoding

/-- A case of the keys: the identifier of a field and its key. -/
structure KeyCase where
  ident : Ident
  key : String
  deriving DecidableEq

/-- The keys of a class. -/
structure KeyMapping where
  ident : Ident
  visibility : Visibility
  runtime : Path
  cases : List KeyCase

namespace KeyMapping

/-- The keys of fields. -/
def ofFields (context : Context) (fields : List Field) : KeyMapping where
  ident := context.keys
  visibility := context.visibility
  runtime := context.runtime
  cases := fields.map fun field => ⟨field.ident, field.key⟩

/-- The names of the fields with their keys. -/
def pairs (mapping : KeyMapping) : List (String × String) :=
  mapping.cases.map fun case => (case.ident.name, case.key)

/-- The key of the first case with an identifier, in the same spelling. -/
def keyFor? (mapping : KeyMapping) (ident : Ident) : Option String :=
  (mapping.cases.find? (·.ident == ident)).map KeyCase.key

/-- The keys in the order of the cases. -/
def keys (mapping : KeyMapping) : List String := mapping.cases.map KeyCase.key

/-- The first case with a key. -/
def resolve? (mapping : KeyMapping) (key : String) : Option KeyCase :=
  mapping.cases.find? (·.key == key)

open TokenStream

/-- The name of a case below the enumeration. -/
def caseTokens (case : KeyCase) : TokenStream := below selfType case.ident.text

/-- The arm that gives the key of a case. -/
def armTokens (case : KeyCase) : TokenStream :=
  caseTokens case ++ symbol "=>" ++ [.literal (Literal.quoteText case.key)]

/-- The type of the texts that last as long as the program. -/
def staticText : TokenStream := symbol "&" ++ [.lifetime "static"] ++ word "str"

/-- The declaration of the enumeration. -/
def declarationTokens (mapping : KeyMapping) : TokenStream :=
  let traits := ["Clone", "Copy", "Debug", "Eq", "Hash", "PartialEq"].map word
  attributeTokens (word "derive" ++ [parens (commaSeparated traits)]) ++
    attributeTokens (word "allow" ++ [parens (word "non_camel_case_types")]) ++
    mapping.visibility.tokens ++ word "enum" ++ mapping.ident.tokens ++
    [braces (withCommas (mapping.cases.map (·.ident.tokens)))]

/-- The list of all cases. -/
def listTokens (mapping : KeyMapping) : TokenStream :=
  word "const" ++ word "ALL" ++ symbol ":" ++ symbol "&" ++
    [.lifetime "static", brackets selfType] ++ symbol "=" ++ symbol "&" ++
    [brackets (commaSeparated (mapping.cases.map caseTokens))] ++ symbol ";"

/-- The function that gives the key of each case. -/
def keyFunctionTokens (mapping : KeyMapping) : TokenStream :=
  word "fn" ++ word "as_str" ++ [parens (word "self")] ++ symbol "->" ++ staticText ++
    [braces (word "match" ++ word "self" ++
      [braces (withCommas (mapping.cases.map armTokens))])]

/-- The code of the keys. -/
def tokens (mapping : KeyMapping) : TokenStream :=
  mapping.declarationTokens ++ word "impl" ++ below mapping.runtime.tokens "CodingKey" ++
    word "for" ++ mapping.ident.tokens ++
    [braces (mapping.listTokens ++ mapping.keyFunctionTokens)]

end KeyMapping

end KeyedCoding
