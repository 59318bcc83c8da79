import KeyedCoding.Grammar.BoundRules

/-!
# Rules for types

## Main definitions

* `Rules.parenType`: types in parentheses, tuples, and sums of bounds that start with parentheses.
* `Rules.functionType`: function types.
* `Rules.typeRule`: types.
-/

namespace KeyedCoding.Rules

open KeyedCoding.Parser

variable (rules : Rules)

/-- The content of a type in parentheses. -/
inductive ParenContent where
  /-- A list of types. -/
  | list (tokens : TokenStream)
  /-- A trait that is only perhaps required, which makes the whole a sum of bounds. -/
  | bound (tokens : TokenStream)
  /-- Bounds that start with a lifetime. -/
  | bounds (tokens : TokenStream)
  /-- A single type. -/
  | single (ty : Ty)

/-- The content of a type in parentheses. -/
def parenContent : Parser ParenContent := do
  if ← atEnd then return .list []
  if ← peekLifetime then return .bounds (← rules.bounds .object true)
  if ← peekSymbol "?" then return .bound (← rules.traitBound .object).1
  let first ← rules.type true
  if ← peekSymbol "," then
    let comma ← symbol ","
    return .list (first.tokens ++ comma ++ (← commaList do return (← rules.type true).tokens))
  return .single first

/-- Further bounds of a sum, whose first one is in parentheses. -/
def sumAfter (first : TokenStream) : Parser Ty := do
  let rest ← rules.moreBounds .object false (← get).length
  return .other ([TokenStream.parens first] ++ rest.tokens)

/-- A type in parentheses, or a tuple of types. A lone trait in parentheses may be the first of a
sum of bounds. -/
def parenType (allowPlus : Bool) : Parser Ty := do
  match ← group .parenthesis rules.parenContent with
  | .list tokens => return .other [TokenStream.parens tokens]
  | .bound tokens => rules.sumAfter tokens
  | .bounds tokens => return .paren (.other tokens)
  | .single ty =>
    let isTrait := match ty with
      | .path .. => true
      | .bound _ => true
      | _ => false
    if isTrait && allowPlus && (← peekSymbol "+") then rules.sumAfter ty.tokens
    else return .paren ty

/-- The name of a parameter of a function type, if it has one. The first parameter may be named
`self`. -/
def functionTypeParamName (isFirst : Bool) : Parser TokenStream := do
  let word := (← peekIdent) || (← peekKeyword "_") || (isFirst && (← peekKeyword "self"))
  takeIf (return word && (← peekSymbol ":" 1) && !(← peekSymbol "::" 1)) do
    return [← next] ++ (← symbol ":")

/-- A parameter of a function type. A first one that is a changeable `self` stays as it is
written. -/
def functionTypeParam (isFirst : Bool) : Parser TokenStream := do
  if isFirst && (← peekKeyword "mut") && (← peekKeyword "self" 1) then
    asWritten do
      let _ ← keyword "mut"
      let name ← functionTypeParamName true
      if name.isEmpty then keyword "self" else return (← rules.type true).tokens
  else
    let named := !(← peekKeyword "self")
    let name ← functionTypeParamName isFirst
    if isFirst && named && (← peekKeyword "mut") && (← peekKeyword "self" 1) then
      return name ++ (← inOrder [keyword "mut", keyword "self"])
    return name ++ (← rules.type true).tokens

/-- The mark of further parameters of any number, perhaps with a name. -/
def functionTypeTail : Parser TokenStream := do
  let name ← takeIf (return !(← peekSymbol "...")) do return [← next] ++ (← symbol ":")
  return name ++ (← symbol "...") ++ (← symbol? ",")

/-- Whether the mark of further parameters follows. -/
def peekFunctionTypeTail : Parser Bool := do
  let named := ((← peekIdent) || (← peekKeyword "_")) && (← peekSymbol ":" 1)
  return (← peekSymbol "...") || (named && (← peekSymbol "..." 2))

/-- A parameter of a function type, or the mark of further ones, with the comma after it. -/
def functionTypeParamItem (isFirst : Bool) : Parser TokenStream := do
  let attributes ← rules.outerAttributes
  if ← peekFunctionTypeTail then
    let tail ← functionTypeTail
    check (← atEnd)
    return attributes ++ tail
  let param ← rules.functionTypeParam isFirst
  return attributes ++ param ++ (← commaBefore)

/-- The convention by which a function is called, perhaps with its name. -/
def convention : Parser TokenStream := takeIf (peekKeyword "extern") do
  let first ← keyword "extern"
  return first ++ (← takeIf peekString do return (← literal).tokens)

/-- A function type, after the lifetimes that it introduces. -/
def functionType : Parser TokenStream := do
  let marks ← inOrder [keyword? "unsafe", convention, keyword "fn"]
  let params ← groupToken .parenthesis (paramList rules.functionTypeParamItem)
  return marks ++ params ++ (← rules.returnType false)

/-- A type that starts with a path, after the lifetimes that it introduces: a path, the call of a
macro or a sum of bounds. -/
def pathType (allowPlus : Bool) (lifetimes : TokenStream) : Parser Ty := do
  if ← peekSymbol "<" then rules.pathBelowType .inType
  else
    let path ← rules.path .inType
    if (← peekSymbol "!") && !(← peekSymbol "!=") && path.isPlain then
      let bang ← symbol "!"
      let (delimiter, content) ← anyGroup
      return .other (path.tokens ++ bang ++ [.group delimiter content])
    if allowPlus && (← peekSymbol "+") then
      let rest ← rules.moreBounds .object true (← get).length
      return .other (lifetimes ++ path.tokens ++ rest.tokens)
    if !lifetimes.isEmpty then return .bound (lifetimes ++ path.tokens)
    return .path path.leading path.segments

/-- A slice or an array. -/
def bracketType : Parser TokenStream := groupToken .bracket do
  let element ← rules.type true
  let length ← takeIf (peekSymbol ";") do return (← symbol ";") ++ (← rules.expr true).tokens
  return element.tokens ++ length

/-- A type. -/
def typeRule (allowPlus : Bool) : Parser Ty := do
  if ← peekGroup .invisible then return .group (← group .invisible (rules.type true))
  let lifetimes ← rules.binder
  if !lifetimes.isEmpty then
    check ((← peekIdent) || (← peekKeywordOf
      ["fn", "unsafe", "extern", "super", "self", "Self", "crate"]))
  if ← peekGroup .parenthesis then rules.parenType allowPlus
  else if ← peekKeywordOf ["fn", "unsafe", "extern"] then
    return .other (lifetimes ++ (← rules.functionType))
  else if ← peekPath then rules.pathType allowPlus lifetimes
  else if ← peekKeyword "dyn" then
    let object := inOrder [keyword "dyn", symbol? "*", rules.bounds .object allowPlus]
    return .other (← if ← peekSymbol "*" 1 then asWritten object else object)
  else if ← peekGroup .bracket then return .other (← rules.bracketType)
  else if ← peekSymbol "*" then
    let star ← symbol "*"
    let access ← if ← peekKeyword "const" then keyword "const" else keyword "mut"
    return .other (star ++ access ++ (← rules.type false).tokens)
  else if ← peekSymbol "&" then
    let reference ← symbol "&"
    let lifetime ← takeIf peekLifetime lifetimeToken
    let access ← keyword? "mut"
    return .other (reference ++ lifetime ++ access ++ (← rules.type false).tokens)
  else if ← peekSymbol "!" then return .other (← symbol "!")
  else if ← peekKeyword "impl" then
    return .other ((← keyword "impl") ++ (← rules.bounds .unnamed allowPlus))
  else if ← peekKeyword "_" then return .other (← keyword "_")
  else if ← peekLifetime then return .other (← rules.bounds .object true)
  else failure

end KeyedCoding.Rules
