import KeyedCoding.Generated.Pieces

/-!
# Making objects

An object is made by a function that takes the values of the fields without a default. Each of the
other fields has a setter.

## Main definitions

* `Param`: a field with how it gets its value.
* `Initializer`: the function and the setters.
* `Initializer.tokens?`: their code.
-/

namespace KeyedCoding

/-- A field with how it gets its value when an object is made. -/
structure Param where
  ident : Ident
  ty : Ty
  default : ParamDefault

/-- How objects of a class are made. -/
structure Initializer where
  target : Ident
  visibility : Visibility
  constructor : Ident
  setterPrefix : String
  params : List Param

open TokenStream

namespace Param

/-- Whether the value of a field is an argument. -/
def isRequired (param : Param) : Bool := param.default.isRequired

/-- A field as an argument. -/
def argTokens (param : Param) : TokenStream :=
  param.ident.tokens ++ symbol ":" ++ param.ty.tokens

/-- A field with its value in a new object. -/
def valueTokens (param : Param) : TokenStream :=
  match param.default with
  | .expr value => param.ident.tokens ++ symbol ":" ++ value.tokens
  | .absent => param.ident.tokens ++ symbol ":" ++ below optionPath "None"
  | .required => param.ident.tokens

end Param

namespace Initializer

/-- How objects with some fields are made. -/
def ofFields (context : Context) (fields : List Field) : Initializer where
  target := context.target
  visibility := context.visibility
  constructor := context.constructor
  setterPrefix := context.setterPrefix
  params := fields.map fun field => ⟨field.ident, field.ty, field.paramDefault⟩

/-- The fields whose values are arguments. -/
def required (initializer : Initializer) : List Param := initializer.params.filter Param.isRequired

/-- The fields that have a setter. -/
def defaulted (initializer : Initializer) : List Param :=
  initializer.params.filter (!Param.isRequired ·)

/-- The identifier of the setter of a field. -/
def setterIdent? (initializer : Initializer) (param : Param) : Option Ident :=
  param.ident.setterIdent? initializer.setterPrefix

/-- The function that makes an object. -/
def constructorTokens (initializer : Initializer) : TokenStream :=
  let args := commaSeparated (initializer.required.map Param.argTokens)
  let values := withCommas (initializer.params.map Param.valueTokens)
  attributeTokens (word "allow" ++ [parens (below (word "clippy") "too_many_arguments")]) ++
    initializer.visibility.tokens ++ word "fn" ++ initializer.constructor.tokens ++ [parens args] ++
    symbol "->" ++ selfType ++ [braces (selfType ++ [braces values])]

/-- The setter of a field, with a given identifier. -/
def setterTokens (initializer : Initializer) (setter : Ident) (param : Param) : TokenStream :=
  let receiver := word "mut" ++ word "self" ++ symbol ","
  let assigned := word "self" ++ symbol "." ++ param.ident.tokens ++ symbol "=" ++
    param.ident.tokens ++ symbol ";"
  attributeTokens (word "must_use") ++ initializer.visibility.tokens ++ word "fn" ++
    setter.tokens ++ [parens (receiver ++ param.argTokens)] ++ symbol "->" ++ selfType ++
    [braces (assigned ++ word "self")]

/-- The setters, if all of them have an identifier. -/
def settersTokens? (initializer : Initializer) : Option TokenStream :=
  (initializer.defaulted.mapM fun param =>
    (initializer.setterIdent? param).map fun setter => initializer.setterTokens setter param).map
      List.flatten

/-- The code that makes objects, if all setters have an identifier. -/
def tokens? (initializer : Initializer) : Option TokenStream :=
  initializer.settersTokens?.map fun setters =>
    word "impl" ++ initializer.target.tokens ++ [braces (initializer.constructorTokens ++ setters)]

end Initializer

end KeyedCoding
