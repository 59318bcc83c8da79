import KeyedCoding.Grammar.OperatorRules

/-!
# Rules for expressions

An operand is an atom with what is called, indexed or selected after it, and with the operators in
front of it.

## Main definitions

* `Rules.atom`: an expression without operators around it.
* `Rules.trailersRule`, `Rules.operandRule`: what stands after an atom and in front of it.
* `Rules.exprRule`: expressions.
* `Rules.statementExprRule`: expressions at the start of a statement, which a block may end.
-/

namespace KeyedCoding

namespace Rules

open KeyedCoding.Parser

variable (rules : Rules)

/-! ### Blocks and control flow -/

/-- A condition, where a brace starts the block after it. -/
def condition : Parser TokenStream := return (← rules.expr false).tokens

/-- The branches of a conditional, at most `fuel` of them. -/
def conditional : Nat → Parser TokenStream
  | 0 => failure
  | fuel + 1 => do
    let first ← keyword "if"
    let condition ← rules.condition
    let branch ← rules.block
    let rest ← takeIf (peekKeyword "else") do
      let otherwise ← keyword "else"
      return otherwise ++ (← if ← peekKeyword "if" then conditional fuel else rules.block)
    return first ++ condition ++ branch ++ rest

/-- An arm of a match. -/
def matchArm : Parser TokenStream := do
  let attributes ← rules.outerAttributes
  let pattern ← rules.alternatives
  let guard ← takeIf (peekKeyword "if") do
    return (← keyword "if") ++ (← rules.expr true).tokens
  let arrow ← symbol "=>"
  return attributes ++ pattern ++ guard ++ arrow

/-- A loop or a block after its label. -/
def loopOrBlock : Parser Expr := do
  if ← peekKeyword "while" then
    let first ← keyword "while"
    let condition ← rules.condition
    return .compound .while (first ++ condition ++ (← rules.attributedBlock))
  else if ← peekKeyword "for" then
    let first ← keyword "for"
    let pattern ← rules.alternatives
    let within ← keyword "in"
    let source ← rules.condition
    return .compound .forLoop (first ++ pattern ++ within ++ source ++ (← rules.attributedBlock))
  else if ← peekKeyword "loop" then
    return .compound .loop ((← keyword "loop") ++ (← rules.attributedBlock))
  else return .compound .block (← rules.attributedBlock)

/-- A loop or a block with a label. -/
def labelled : Parser Expr := do
  let label ← lifetimeToken
  let colon ← symbol ":"
  let body ← rules.loopOrBlock
  return .compound body.form (label ++ colon ++ body.tokens)

/-- A keyword and a block. -/
def keywordBlock (word : String) (form : Expr.Form) : Parser Expr := do
  return .compound form ((← keyword word) ++ (← rules.attributedBlock))

/-! ### Atoms -/

/-- Whether an expression can start here. -/
def peekExprStart : Parser Bool := do
  let group := (← peekGroup .parenthesis) || (← peekGroup .bracket) || (← peekGroup .brace) ||
    (← peekGroup .invisible)
  let operator := ((← peekSymbol "!") && !(← peekSymbol "!=")) ||
    ((← peekSymbol "-") && !(← peekSymbol "-=") && !(← peekSymbol "->")) ||
    ((← peekSymbol "*") && !(← peekSymbol "*=")) ||
    ((← peekSymbol "|") && !(← peekSymbol "|=")) ||
    ((← peekSymbol "&") && !(← peekSymbol "&=")) ||
    ((← peekSymbol "<") && !(← peekSymbol "<=") && !(← peekSymbol "<<="))
  let word := (← peekAnyWord) && !(← peekKeyword "as")
  return word || group || (← peekLiteral) || operator || (← peekSymbol "..") ||
    (← peekSymbol "::") || (← peekLifetime) || (← peekSymbol "#")

/-- Arguments of a call. -/
def callArgs : Parser TokenStream :=
  groupToken .parenthesis (commaList do return (← rules.expr true).tokens)

/-- A field of a value with named fields: its name and its value, or a name that is both. -/
def fieldValue : Parser TokenStream := do
  let attributes ← rules.outerAttributes
  let (name, named) ← member
  if !named || (← peekSymbol ":") then
    let colon ← symbol ":"
    return attributes ++ name ++ colon ++ (← rules.expr true).tokens
  return attributes ++ name

/-- The braces of a value with named fields. Two points at the end stand for all other fields,
perhaps with a value to take them from. -/
def fieldValues : Parser TokenStream := groupToken .brace do
  let fields ← repeated atEnd do
    if ← peekSymbol ".." then
      let rest ← symbol ".."
      let source ← takeIf (return !(← atEnd)) do return (← rules.expr true).tokens
      check (← atEnd)
      return rest ++ source
    let field ← rules.fieldValue
    return field ++ (← commaBefore)
  return fields.flatten

/-- An expression that starts with a path: the path, the call of a macro, or a value with named
fields. -/
def pathExpr (allowBrace : Bool) : Parser Expr := do
  let path ← rules.exprPath
  if path.isPlainPath && (← peekSymbol "!") && !(← peekSymbol "!=") then
    let bang ← symbol "!"
    let (delimiter, content) ← anyGroup
    return .compound (.macroCall (delimiter == .brace))
      (path.tokens ++ bang ++ [.group delimiter content])
  if allowBrace && (← peekGroup .brace) then
    return .compound .struct (path.tokens ++ (← rules.fieldValues))
  return .compound .path path.tokens

/-- An expression in parentheses, or a tuple. -/
def parenExpr : Parser Expr := group .parenthesis do
  if ← atEnd then return .compound .tuple [TokenStream.parens []]
  let first ← rules.expr true
  if ← atEnd then return .compound .paren [TokenStream.parens first.tokens]
  let comma ← symbol ","
  let rest ← commaList do return (← rules.expr true).tokens
  return .compound .tuple [TokenStream.parens (first.tokens ++ comma ++ rest)]

/-- An array, by its elements or by one element and a length. -/
def bracketExpr : Parser Expr := group .bracket do
  if ← atEnd then return .compound .array [TokenStream.brackets []]
  let first ← rules.expr true
  if ← peekSymbol ";" then
    let sign ← symbol ";"
    let length ← rules.expr true
    return .compound .repeat [TokenStream.brackets (first.tokens ++ sign ++ length.tokens)]
  if ← atEnd then return .compound .array [TokenStream.brackets first.tokens]
  let comma ← symbol ","
  let rest ← commaList do return (← rules.expr true).tokens
  return .compound .array [TokenStream.brackets (first.tokens ++ comma ++ rest)]

/-- A parameter of a closure. -/
def closureParam : Parser TokenStream := do
  let attributes ← rules.outerAttributes
  let pattern ← rules.pattern
  let ty ← takeIf (peekSymbol ":") do return (← symbol ":") ++ (← rules.type true).tokens
  return attributes ++ pattern ++ ty

/-- A closure. If it names the type it gives back, its body is a block. -/
def closure (allowBrace : Bool) : Parser Expr := do
  let marks ← inOrder [rules.binder, keyword? "const", keyword? "static", keyword? "async",
    keyword? "move"]
  let opening ← symbol "|"
  let params ← separated (peekSymbol "|") "," rules.closureParam
  let closing ← symbol "|"
  let head := marks ++ opening ++ itemTokens "," params ++ closing
  if ← peekSymbol "->" then
    let result ← rules.returnType true
    return .compound .closure (head ++ result ++ (← rules.block))
  return .compound .closure (head ++ (← rules.expr allowBrace).tokens)

/-- Whether a closure follows. -/
def peekClosure : Parser Bool := do
  let afterFor := (← peekKeyword "for") && (← peekSymbol "<" 1) &&
    ((← peekLifetime 2) || (← peekSymbol ">" 2))
  return (← peekSymbol "|") || (← peekKeyword "move") || afterFor ||
    ((← peekKeyword "const") && !(← peekGroup .brace 1)) || (← peekKeyword "static") ||
    ((← peekKeyword "async") && ((← peekSymbol "|" 1) || (← peekKeyword "move" 1)))

/-- Leaving a loop or a block, with an optional label and value. -/
def breakExpr (allowBrace : Bool) : Parser Expr := do
  let first ← keyword "break"
  let label ← takeIf peekLifetime lifetimeToken
  check (label.isEmpty || !(← peekSymbol ":"))
  let value ← takeIf (return (← peekExprStart) && (allowBrace || !(← peekGroup .brace))) do
    return (← rules.expr allowBrace).tokens
  return .compound .break (first ++ label ++ value)

/-- A keyword with an optional value. -/
def keywordValue (word : String) (form : Expr.Form) : Parser Expr := do
  let first ← keyword word
  let value ← takeIf peekExprStart do return (← rules.expr true).tokens
  return .compound form (first ++ value)

/-- A call that is left by the called function. -/
def becomeExpr : Parser Expr := do
  return .compound .verbatim
    (← asWritten do return (← keyword "become") ++ (← rules.expr true).tokens)

/-- A call of what is built into the compiler. -/
def builtinExpr : Parser Expr := do
  return .compound .verbatim
    (← asWritten (inOrder [keyword "builtin", symbol "#", identToken,
      groupToken .parenthesis (modifyGet fun content => (content, []))]))

/-- A condition that matches a pattern. -/
def letExpr (allowBrace : Bool) : Parser Expr := do
  let first ← keyword "let"
  let pattern ← rules.alternatives
  let equals ← symbol "="
  let operand ← rules.operand allowBrace
  let value ← rules.operators allowBrace operand Strength.comparison
  return .compound .let (first ++ pattern ++ equals ++ value.tokens)

/-- The arms of a match, at most `fuel` of them. An arm whose body ends by itself needs no comma,
and neither does the last one. -/
def matchArms : Nat → Parser TokenStream
  | 0 => failure
  | fuel + 1 => do
    if ← atEnd then return []
    let head ← rules.matchArm
    let body ← rules.statementExpr
    let needsComma := !body.form.endsItself && !(← atEnd)
    let comma ← if needsComma then symbol "," else symbol? ","
    return head ++ body.tokens ++ comma ++ (← matchArms fuel)

/-- A match. -/
def matchExpr : Parser Expr := do
  let first ← keyword "match"
  let subject ← rules.condition
  let arms ← groupToken .brace do
    return (← rules.innerAttributes) ++ (← rules.matchArms ((← get).length + 1))
  return .compound .match (first ++ subject ++ arms)

/-- An expression that is started by a keyword or a block, in a statement as anywhere else. -/
def blockLike? : Parser (Option Expr) := do
  if ← peekKeyword "if" then
    return some (.compound .if (← rules.conditional (← get).length))
  else if (← peekKeywordOf ["while", "loop"]) || (← peekGroup .brace) then
    return some (← rules.loopOrBlock)
  else if (← peekKeyword "for") && !(← peekClosure) then return some (← rules.loopOrBlock)
  else if ← peekKeyword "match" then return some (← rules.matchExpr)
  else if (← peekKeyword "try") && (← peekGroup .brace 1) then
    return some (.compound .tryBlock ((← keyword "try") ++ (← rules.block)))
  else if ← peekKeyword "unsafe" then return some (← rules.keywordBlock "unsafe" .unsafeBlock)
  else if (← peekKeyword "const") && (← peekGroup .brace 1) then
    return some (← rules.keywordBlock "const" .const)
  else if ← peekLifetime then return some (← rules.labelled)
  else return none

/-- An expression without operators around it. -/
def atom (allowBrace : Bool) : Parser Expr := do
  if ← peekGroup .invisible then
    return .compound .paren (← groupToken .invisible do return (← rules.expr true).tokens)
  if ← peekLiteral then return .literal (← literal)
  if (← peekKeyword "async") && ((← peekGroup .brace 1) ||
      ((← peekKeyword "move" 1) && (← peekGroup .brace 2))) then
    return .compound .async
      (← inOrder [keyword "async", keyword? "move", rules.attributedBlock])
  match ← rules.blockLike? with
  | some expr => return expr
  | none =>
    if ← peekClosure then rules.closure allowBrace
    else if (← peekKeyword "builtin") && (← peekSymbol "#" 1) then builtinExpr
    else if (← peekPath) ||
        ((← peekKeyword "try") && ((← peekSymbol "!" 1) || (← peekSymbol "::" 1))) then
      rules.pathExpr allowBrace
    else if ← peekGroup .parenthesis then rules.parenExpr
    else if ← peekKeyword "break" then rules.breakExpr allowBrace
    else if ← peekKeyword "continue" then
      return .compound .continue (← inOrder [keyword "continue", takeIf peekLifetime lifetimeToken])
    else if ← peekKeyword "return" then rules.keywordValue "return" .return
    else if ← peekKeyword "become" then rules.becomeExpr
    else if ← peekGroup .bracket then rules.bracketExpr
    else if ← peekKeyword "let" then rules.letExpr allowBrace
    else if ← peekKeyword "yield" then rules.keywordValue "yield" .yield
    else if ← peekSymbol ".." then
      let sign ← rangeSign
      return .compound .range (sign ++ (← rules.rangeEnd allowBrace sign))
    else if ← peekKeyword "_" then return .compound .infer (← keyword "_")
    else failure

/-! ### Trailers and operands -/

/-- The numbers of nested tuple fields that are written like a number with a fraction, and whether
a point is left over at the end. -/
def nestedFieldNumbers? (spelling : String) : Option (List String × Bool) :=
  let parts := spelling.splitOn "."
  if parts.length < 2 then none
  else (parts.filter (· ≠ "")).mapM fieldNumber? |>.map (·, parts.getLast? == some "")

/-- The fields with the given numbers, with a point between them. -/
def fieldNumbers : List String → TokenStream
  | [] => []
  | [number] => [.literal number]
  | number :: rest => .literal number :: (TokenStream.symbol "." ++ fieldNumbers rest)

/-- What stands after the point that follows an expression. -/
def afterPoint (expr : TokenStream) : Parser Expr := do
  if ← peekKeyword "await" then return .compound .await (expr ++ (← keyword "await"))
  let (name, named) ← member
  let turbofish ← takeIf (return named && (← peekSymbol "::")) do
    let colons ← symbol "::"
    let opening ← symbol "<"
    let args ← separated (peekSymbol ">") "," rules.genericArg
    let closing ← symbol ">"
    let placed := GenericArg.placed ((args.getLast?.map (·.2)).getD false) (args.map (·.1))
    return colons ++ opening ++ PlacedArg.arrange placed ++ closing
  if named && (!turbofish.isEmpty || (← peekGroup .parenthesis)) then
    return .compound .methodCall (expr ++ name ++ turbofish ++ (← rules.callArgs))
  check turbofish.isEmpty
  return .compound .field (expr ++ name)

/-- The calls, fields and indices after an expression. -/
def trailersRule (expr : Expr) : Parser Expr := do
  let isRange := expr.form == .range
  if ← peekGroup .parenthesis then
    rules.trailers (.compound .call (expr.tokens ++ (← rules.callArgs)))
  else if (← peekSymbol ".") && !(← peekSymbol "..") && !isRange then
    let point ← symbol "."
    let selected := expr.tokens ++ point
    match ← get with
    | .literal spelling :: rest =>
      match nestedFieldNumbers? spelling with
      | some (numbers, leftover) =>
        set rest
        let fields := selected ++ fieldNumbers numbers
        if leftover then
          rules.trailers (← rules.afterPoint (fields ++ TokenStream.symbol "."))
        else rules.trailers (.compound .field fields)
      | none => rules.trailers (← rules.afterPoint selected)
    | _ => rules.trailers (← rules.afterPoint selected)
  else if ← peekGroup .bracket then
    let index ← groupToken .bracket do return (← rules.expr true).tokens
    rules.trailers (.compound .index (expr.tokens ++ index))
  else if (← peekSymbol "?") && !isRange then
    rules.trailers (.compound .try (expr.tokens ++ (← symbol "?")))
  else return expr

/-- An operand with its leading operators. -/
def operandRule (allowBrace : Bool) : Parser Expr := do
  let attributes ← rules.outerAttributes
  if ← peekSymbol "&" then
    let sign ← symbol "&"
    let address := (← peekKeyword "raw") && (← peekKeywordOf ["mut", "const"] 1)
    let raw ← if address then keyword "raw" else pure []
    let access ← if address && !(← peekKeyword "mut") then keyword "const" else keyword? "mut"
    let operand ← rules.operand allowBrace
    return .compound (if address then .rawAddress else .reference)
      (attributes ++ sign ++ raw ++ access ++ operand.tokens)
  else if ← peekSymbolOf ["*", "!", "-"] then
    let sign ← symbolOf ["*", "!", "-"]
    return .compound .unary (attributes ++ sign ++ (← rules.operand allowBrace).tokens)
  else
    let expr ← rules.trailers (← rules.atom allowBrace)
    check (attributes.isEmpty || expr.form != .range)
    return expr.withAttributes attributes

/-- An expression. -/
def exprRule (allowBrace : Bool) : Parser Expr := do
  let operand ← rules.operand allowBrace
  rules.operators allowBrace operand Strength.least

/-- An expression at the start of a statement or as the body of an arm: one that a block ends is
not continued by an operator, but only by a field, a call of a method or a question mark. -/
def statementExprRule : Parser Expr := do
  let attributes ← rules.outerAttributes
  match ← rules.blockLike? with
  | some expr =>
    if ((← peekSymbol ".") && !(← peekSymbol "..")) || (← peekSymbol "?") then
      let expr ← rules.trailers expr
      rules.operators true (expr.withAttributes attributes) Strength.least
    else return expr.withAttributes attributes
  | none =>
    let operand ← rules.operand true
    rules.operators true (operand.withAttributes attributes) Strength.least

end Rules

end KeyedCoding
