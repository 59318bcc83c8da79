import KeyedCoding.Grammar.ItemRules

/-!
# Rules for statements

## Main definitions

* `Rules.statement`: a statement, and whether another one may follow it.
* `Rules.statementsRule`: the statements of a block.
-/

namespace KeyedCoding.Rules

open KeyedCoding.Parser

variable (rules : Rules)

/-- A binding of a pattern to a value, with a way out if the pattern does not match. -/
def letStatement : Parser TokenStream := do
  let first ← keyword "let"
  let pattern ← rules.pattern
  let ty ← takeIf (peekSymbol ":") do return (← symbol ":") ++ (← rules.type true).tokens
  let value ← takeIf (peekSymbol "=") do
    let equals ← symbol "="
    let expr ← rules.expr true
    let endsInBrace := match expr.tokens.getLast? with
      | some (.group .brace _) => true
      | _ => false
    let otherwise ← takeIf (return !endsInBrace && (← peekKeyword "else")) do
      return (← keyword "else") ++ (← rules.block)
    return equals ++ expr.tokens ++ otherwise
  return first ++ pattern ++ ty ++ value ++ (← symbol ";")

/-- How many tokens the path of a macro takes, if its call follows. -/
def macroPathLength? : TokenStream → Option Nat
  | .word name :: .punct ':' true :: .punct ':' _ :: rest =>
    if Word.isIdent name || ["super", "self", "Self", "crate"].contains name then
      (macroPathLength? rest).map (· + 3)
    else none
  | .word name :: .punct '!' _ :: _ => if Word.isIdent name then some 1 else none
  | _ => none

/-- Whether the call of a macro with braces follows that is a statement of its own, or the
definition of a macro. -/
def peekMacroStatement : Parser Bool := do
  let tokens ← get
  let start := if startsWithSymbol [':', ':'] tokens then 2 else 0
  match macroPathLength? (tokens.drop start) with
  | none => return false
  | some length =>
    let afterBang := start + length + 1
    let continues := ((← peekSymbol "." (afterBang + 1)) && !(← peekSymbol ".." (afterBang + 1))) ||
      (← peekSymbol "?" (afterBang + 1))
    return ((← peekGroup .brace afterBang) && !continues) || (← peekIdent afterBang)

/-- A call of a macro that is a statement of its own, or the definition of a macro. -/
def macroStatement : Parser TokenStream := inOrder [macroItem, symbol? ";"]

/-- A statement, and whether another one may follow it. -/
def statement : Parser (TokenStream × Bool) := do
  let attributes ← rules.outerAttributes
  if ← peekMacroStatement then return (attributes ++ (← macroStatement), true)
  else if ← peekKeyword "let" then return (attributes ++ (← rules.letStatement), true)
  else if ← peekItem then
    let visibility ← visibility
    return (attributes ++ visibility ++ (← rules.itemBody), true)
  else
    let expr ← rules.statementExpr
    let semicolon ← symbol? ";"
    return (attributes ++ expr.tokens ++ semicolon,
      !semicolon.isEmpty || expr.form.endsStatement)

/-- The statements of a block, at most `fuel` of them. -/
def statementsAtMost : Nat → Parser TokenStream
  | 0 => failure
  | fuel + 1 => do
    if ← atEnd then return []
    if ← peekSymbol ";" then return (← symbol ";") ++ (← statementsAtMost fuel)
    let (tokens, complete) ← rules.statement
    check (complete || (← atEnd))
    return tokens ++ (← statementsAtMost fuel)

/-- The statements of a block. -/
def statementsRule : Parser TokenStream := do rules.statementsAtMost ((← get).length + 1)

end KeyedCoding.Rules
