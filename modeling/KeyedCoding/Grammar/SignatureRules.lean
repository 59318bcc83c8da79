import KeyedCoding.Grammar.ExprRules

/-!
# Rules for the heads of items

## Main definitions

* `Rules.visibility`: who may use an item.
* `Rules.genericParams`, `Rules.requirements`: the parameters of an item and what it asks of them.
* `Rules.signature`: the signature of a function.
-/

namespace KeyedCoding.Rules

open KeyedCoding.Parser

variable (rules : Rules)

/-! ### Visibility -/

/-- The place inside the parentheses of a visibility. -/
def visibilityPlace : Parser TokenStream := do
  if ← peekKeywordOf ["crate", "self", "super"] then return [← next]
  else
    let within ← keyword "in"
    let path ← wordPath fun word =>
      Word.isIdent word || ["super", "self", "Self", "crate"].contains word
    return within ++ path.tokens

/-- Who may use an item: nobody outside if nothing is said. -/
def visibility : Parser TokenStream := do
  if !(← peekKeyword "pub") then return []
  let first ← keyword "pub"
  match ← get with
  | .group .parenthesis content :: rest =>
    match visibilityPlace.run? content with
    | some place => set rest; return first ++ [TokenStream.parens place]
    | none => return first
  | _ => return first

/-! ### Parameters of items -/

/-- The parameters in angle brackets of an item, lifetimes first. -/
def genericParams : Parser TokenStream := takeIf (peekSymbol "<") do
  let opening ← symbol "<"
  let params ← separated (peekSymbol ">") "," rules.genericParam
  let closing ← symbol ">"
  return opening ++ PlacedArg.arrangeItems params ++ closing

/-- What an item requires of its parameters. -/
def requirements : Parser TokenStream := takeIf (peekKeyword "where") do
  let first ← keyword "where"
  let stop : Parser Bool := return (← atEnd) || (← peekGroup .brace) || (← peekSymbolOf [";", "="])
  let stopBound : Parser Bool := return (← stop) || (← peekSymbol ",")
  let clauses ← separated stop "," do
    if ← peekLifetime then return (← lifetimeToken) ++ (← outlivedAfterColon stopBound)
    let introduced ← rules.binder
    let ty ← rules.type true
    return introduced ++ ty.tokens ++ (← rules.boundsAfterColon stopBound)
  return first ++ itemTokens "," clauses

/-! ### Functions -/

/-- A colon and a type. -/
def typeAfterColon : Parser TokenStream := do
  return (← symbol ":") ++ (← rules.type true).tokens

/-- The receiver of a method. One that is taken by value may have a type. -/
def receiver : Parser TokenStream := do
  let reference ← takeIf (peekSymbol "&") (inOrder [symbol "&", takeIf peekLifetime lifetimeToken])
  let name ← inOrder [keyword? "mut", keyword "self"]
  return reference ++ name ++
    (← takeIf (return reference.isEmpty && (← peekSymbol ":")) rules.typeAfterColon)

/-- A parameter of a function, or the mark of further ones, with the comma after it. The first one
may be a receiver. -/
def functionParam (isFirst : Bool) : Parser TokenStream := do
  let attributes ← rules.outerAttributes
  if ← peekSymbol "..." then
    return attributes ++ (← inOrder [symbol "...", symbol? ",", checkEnd])
  match ← attempt rules.receiver with
  | some receiver => check isFirst; return attributes ++ receiver ++ (← commaBefore)
  | none =>
    let pattern ← rules.pattern
    if ← peekSymbol "..." 1 then
      return attributes ++ pattern ++ (← inOrder [symbol ":", symbol "...", symbol? ",", checkEnd])
    return attributes ++ pattern ++ (← rules.typeAfterColon) ++ (← commaBefore)
where
  /-- Check that all tokens have been read. -/
  checkEnd : Parser TokenStream := do check (← atEnd); return []

/-- Whether the signature of a function follows. -/
def peekFunction : Parser Bool := do
  let marks := inOrder [keyword? "const", keyword? "async", keyword? "unsafe", convention,
    keyword "fn"]
  return (StateT.run marks (← get)).isSome

/-- The signature of a function. -/
def signature : Parser TokenStream :=
  inOrder [keyword? "const", keyword? "async", keyword? "unsafe", convention, keyword "fn",
    identToken, rules.genericParams, groupToken .parenthesis (paramList rules.functionParam),
    rules.returnType true, rules.requirements]

/-- A function, of which perhaps only the signature is given. -/
def functionItem : Parser TokenStream := do
  let signature ← rules.signature
  return signature ++ (← if ← peekSymbol ";" then symbol ";" else rules.attributedBlock)

end KeyedCoding.Rules
