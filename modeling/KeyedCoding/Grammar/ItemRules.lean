import KeyedCoding.Grammar.SignatureRules

/-!
# Rules for items

Declarations, as they may stand among the statements of a block or in a module.

## Main definitions

* `Rules.structItem`, `Rules.enumItem`, `Rules.typeItem`: declared types.
* `Rules.traitItem`, `Rules.implItem`, `Rules.moduleItem`: items with members.
* `Rules.useTreeRule`: what a use item brings into scope.
* `Rules.itemRule`: items.
-/

namespace KeyedCoding.Rules

open KeyedCoding.Parser

variable (rules : Rules)

/-! ### Declared types -/

/-- The named fields of a declared type. -/
def namedFields : Parser TokenStream := groupToken .brace (commaList do
  let attributes ← rules.outerAttributes
  return attributes ++ (← inOrder [visibility, identToken, rules.typeAfterColon]))

/-- The fields of a declared type that have no names. -/
def unnamedFields : Parser TokenStream := groupToken .parenthesis (commaList do
  let attributes ← rules.outerAttributes
  let visibility ← visibility
  return attributes ++ visibility ++ (← rules.type true).tokens)

/-- A declared type with fields. -/
def structItem : Parser TokenStream := do
  let head ← inOrder [keyword "struct", identToken, rules.genericParams]
  if ← peekGroup .parenthesis then
    return head ++ (← inOrder [rules.unnamedFields, rules.requirements, symbol ";"])
  let requirements ← rules.requirements
  if ← peekGroup .brace then return head ++ requirements ++ (← rules.namedFields)
  return head ++ requirements ++ (← symbol ";")

/-- A declared type whose fields share their place. -/
def unionItem : Parser TokenStream :=
  inOrder [keyword "union", identToken, rules.genericParams, rules.requirements, rules.namedFields]

/-- A value after a sign. -/
def assignedValue : Parser TokenStream := takeIf (peekSymbol "=") do
  return (← symbol "=") ++ (← rules.expr true).tokens

/-- A declared type with variants. -/
def enumItem : Parser TokenStream := do
  let head ← inOrder [keyword "enum", identToken, rules.genericParams, rules.requirements]
  let variants ← groupToken .brace (commaList do
    let attributes ← rules.outerAttributes
    let name ← inOrder [visibility, identToken]
    let fields ← if ← peekGroup .brace then rules.namedFields
      else takeIf (peekGroup .parenthesis) rules.unnamedFields
    return attributes ++ name ++ fields ++ (← rules.assignedValue))
  return head ++ variants

/-- A name for a type, or the name of a type that is known by its bounds. -/
def typeItem : Parser TokenStream := do
  let stop : Parser Bool := return (← peekKeyword "where") || (← peekSymbolOf ["=", ";"])
  inOrder [keyword "type", identToken, rules.genericParams, rules.boundsAfterColon stop,
    rules.requirements, takeIf (peekSymbol "=") do
      return (← symbol "=") ++ (← rules.type true).tokens,
    rules.requirements, symbol ";"]

/-! ### Values -/

/-- A name that is perhaps left open. -/
def openName : Parser TokenStream :=
  return [.word (← wordWhere fun word => word == "_" || Word.isIdent word)]

/-- A named constant. -/
def constItem : Parser TokenStream :=
  inOrder [keyword "const", openName, rules.genericParams, rules.typeAfterColon,
    rules.assignedValue, rules.requirements, symbol ";"]

/-- A static variable. Its type or its value may be left out, but not both. -/
def staticItem : Parser TokenStream := do
  let head ← inOrder [keyword "static", keyword? "mut", identToken]
  let ty ← takeIf (peekSymbol ":") rules.typeAfterColon
  let value ← rules.assignedValue
  check (!(ty ++ value).isEmpty)
  return head ++ ty ++ value ++ (← symbol ";")

/-! ### Items with members -/

/-- What a use item brings into scope. -/
def useTreeRule : Parser TokenStream := do
  if ← peekGroup .brace then groupToken .brace (commaList rules.useTree)
  else if ← peekSymbol "*" then symbol "*"
  else
    let name ← wordWhere fun word =>
      Word.isIdent word || ["crate", "self", "super", "try"].contains word
    if ← peekSymbol "::" then return [.word name] ++ (← symbol "::") ++ (← rules.useTree)
    else if ← peekKeyword "as" then return [.word name] ++ (← inOrder [keyword "as", openName])
    else return [.word name]

/-- A call of a macro in the place of an item. One with braces needs no semicolon. -/
def macroItem : Parser TokenStream := do
  let path ← attributePath
  let bang ← symbol "!"
  let name ← takeIf peekIdent identToken
  let (delimiter, content) ← anyGroup
  let semicolon ← if delimiter == .brace then pure [] else symbol ";"
  return path.tokens ++ bang ++ name ++ [.group delimiter content] ++ semicolon

/-- A member of a trait, of an implementation, or of a block of foreign functions. -/
def memberItem : Parser TokenStream := do
  let attributes ← rules.outerAttributes
  let marks ← inOrder [visibility,
    takeIf (return (← peekKeyword "default") && !(← peekSymbol "!" 1)) (keyword "default")]
  let body ←
    if ← peekFunction then rules.functionItem
    else if ← peekKeyword "const" then rules.constItem
    else if ← peekKeyword "static" then rules.staticItem
    else if ← peekKeyword "type" then rules.typeItem
    else macroItem
  return attributes ++ marks ++ body

/-- Members between braces, after attributes of the whole. -/
def braced (member : Parser TokenStream) : Parser TokenStream := groupToken .brace do
  return (← rules.innerAttributes) ++ (← repeated atEnd member).flatten

/-- A module, perhaps with its content. -/
def moduleItem : Parser TokenStream := do
  let head ← inOrder [keyword "mod", identToken]
  return head ++ (← if ← peekSymbol ";" then symbol ";" else rules.braced rules.item)

/-- A trait, perhaps one that holds without being implemented, or another name for bounds. -/
def traitItem : Parser TokenStream := do
  let stop : Parser Bool := return (← peekKeyword "where") || (← peekGroup .brace)
  let head ← inOrder [keyword? "auto", keyword "trait", identToken, rules.genericParams]
  if ← peekSymbol "=" then
    let stop : Parser Bool := return (← peekKeyword "where") || (← peekSymbol ";")
    let equals ← symbol "="
    let bounds ← separated stop "+" (return (← rules.bound .parameter).tokens)
    return head ++ equals ++ itemTokens "+" bounds ++ (← inOrder [rules.requirements, symbol ";"])
  return head ++
    (← inOrder [rules.boundsAfterColon stop, rules.requirements, rules.braced rules.memberItem])

/-- Whether `<` opens parameters of an implementation rather than a path below a type. -/
def peekImplParams : Parser Bool := do
  let named := ((← peekLifetime 1) || (← peekIdent 1)) && ((← peekSymbol ":" 2) ||
    (← peekSymbol "," 2) || (← peekSymbol ">" 2) || (← peekSymbol "=" 2))
  return (← peekSymbol "<") && ((← peekSymbol ">" 1) || (← peekSymbol "#" 1) || named ||
    (← peekKeyword "const" 1))

/-- An implementation of a trait, or of a type alone. -/
def implItem : Parser TokenStream := do
  let head ← inOrder [keyword "impl", takeIf peekImplParams rules.genericParams]
  let polarity ← takeIf (return (← peekSymbol "!") && !(← peekGroup .brace 1)) (symbol "!")
  let first ← rules.type true
  let target ← takeIf (peekKeyword "for") do
    return (← keyword "for") ++ (← rules.type true).tokens
  return head ++ polarity ++ first.tokens ++ target ++
    (← inOrder [rules.requirements, rules.braced rules.memberItem])

/-- A foreign library, or a block of functions from one. -/
def externItem : Parser TokenStream := do
  if ← peekKeyword "crate" 1 then
    let head ← inOrder [keyword "extern", keyword "crate"]
    let name ← wordWhere fun word => word == "self" || Word.isIdent word
    return head ++ [.word name] ++
      (← inOrder [takeIf (peekKeyword "as") (inOrder [keyword "as", openName]), symbol ";"])
  inOrder [convention, rules.braced rules.memberItem]

/-! ### Items -/

/-- Whether an item follows, once its attributes are read. -/
def peekItem : Parser Bool := do
  let isCrateVisibility := (← peekKeyword "crate") && !(← peekSymbol "::" 1)
  let isStatic := (← peekKeyword "static") && ((← peekKeyword "mut" 1) || (← peekIdent 1))
  let isConst := (← peekKeyword "const") && !((← peekGroup .brace 1) ||
    (← peekKeywordOf ["static", "move"] 1) || (← peekSymbol "|" 1) ||
    ((← peekKeyword "async" 1) && !(← peekKeywordOf ["unsafe", "extern", "fn"] 2)))
  let isUnsafe := (← peekKeyword "unsafe") && !(← peekGroup .brace 1)
  let isAsync := (← peekKeyword "async") && (← peekKeywordOf ["unsafe", "extern", "fn"] 1)
  let isUnion := (← peekKeyword "union") && (← peekIdent 1)
  let isAuto := (← peekKeyword "auto") && (← peekKeyword "trait" 1)
  let isDefault := (← peekKeyword "default") && (← peekKeywordOf ["unsafe", "impl"] 1)
  return (← peekKeywordOf ["pub", "extern", "use", "fn", "mod", "type", "struct", "enum", "trait",
      "impl"]) ||
    isCrateVisibility || isStatic || isConst || isUnsafe || isAsync || isUnion || isAuto ||
    isDefault

/-- An item without attributes and visibility. -/
def itemBody : Parser TokenStream := do
  if ← peekFunction then rules.functionItem
  else if ← peekKeyword "use" then inOrder [keyword "use", symbol? "::", rules.useTree, symbol ";"]
  else if ← peekKeyword "const" then rules.constItem
  else if ← peekKeyword "static" then rules.staticItem
  else if ← peekKeyword "type" then rules.typeItem
  else if ← peekKeyword "struct" then rules.structItem
  else if ← peekKeyword "enum" then rules.enumItem
  else if (← peekKeyword "union") && (← peekIdent 1) then rules.unionItem
  else
    let marks ← inOrder [takeIf (peekKeywordOf ["unsafe", "impl"] 1) (keyword? "default"),
      keyword? "unsafe"]
    if ← peekKeyword "extern" then return marks ++ (← rules.externItem)
    else if ← peekKeyword "mod" then return marks ++ (← rules.moduleItem)
    else if ← peekKeyword "impl" then return marks ++ (← rules.implItem)
    else if (← peekKeyword "trait") || ((← peekKeyword "auto") && (← peekKeyword "trait" 1)) then
      return marks ++ (← rules.traitItem)
    else
      check marks.isEmpty
      macroItem

/-- An item with its attributes. -/
def itemRule : Parser TokenStream := do
  let attributes ← rules.outerAttributes
  let visibility ← visibility
  return attributes ++ visibility ++ (← rules.itemBody)

end KeyedCoding.Rules
