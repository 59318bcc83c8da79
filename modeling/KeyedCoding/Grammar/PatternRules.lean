import KeyedCoding.Grammar.TypeRules

/-!
# Rules for patterns

## Main definitions

* `Rules.patternRule`: patterns without alternatives.
* `Rules.alternatives`: alternatives of patterns.
-/

namespace KeyedCoding.Rules

open KeyedCoding.Parser

variable (rules : Rules)

/-- The sign of a range in a pattern. Three points are an old way to write a closed one. -/
def patternRangeSign : Parser TokenStream := do
  if ← peekSymbol "..." then
    let _ ← symbol "..."
    return TokenStream.symbol "..="
  symbolOf ["..=", ".."]

/-- Whether another alternative follows. -/
def peekAlternative : Parser Bool :=
  return (← peekSymbol "|") && !(← peekSymbol "||") && !(← peekSymbol "|=")

/-- The alternatives after a first one, each with the bar before it, at most `fuel` of them. -/
def moreAlternatives : Nat → Parser TokenStream
  | 0 => return []
  | fuel + 1 => do
    if ← peekAlternative then
      let bar ← symbol "|"
      let pattern ← rules.pattern
      return bar ++ pattern ++ (← moreAlternatives fuel)
    else return []

/-- Alternatives of patterns, with a bar between them and perhaps one before the first. -/
def alternatives : Parser TokenStream := do
  let bar ← symbol? "|"
  let first ← rules.pattern
  return bar ++ first ++ (← rules.moreAlternatives (← get).length)

/-- A block that is evaluated at compile time. -/
def constBlock : Parser TokenStream := do
  return (← keyword "const") ++ (← groupToken .brace rules.statements)

/-- A path in an expression or a pattern. -/
def exprPath : Parser Ty := do
  if ← peekSymbol "<" then rules.pathBelowType .inExpr
  else
    let path ← rules.path .inExpr
    return .path path.leading path.segments

/-- An end of a range in a pattern; none if what follows ends the pattern. -/
def patternRangeEnd : Parser TokenStream := do
  let stops := (← atEnd) || (← peekSymbolOf ["|", "=", ",", ";"]) || (← peekKeyword "if") ||
    ((← peekSymbol ":") && !(← peekSymbol "::"))
  if stops then return []
  if ← peekLiteral then return (← literal).tokens
  if ← peekKeyword "const" then rules.constBlock
  else
    check (← peekPath)
    return (← rules.exprPath).tokens

/-- A range after its start. Only an open one may lack an end. -/
def patternRangeRest : Parser TokenStream := do
  let sign ← patternRangeSign
  let finish ← rules.patternRangeEnd
  check (!finish.isEmpty || sign.length == 2)
  return sign ++ finish

/-- A range that a literal or a constant starts, or that constant itself. -/
def patternLiteral : Parser TokenStream := do
  let start ← rules.patternRangeEnd
  check !start.isEmpty
  if ← peekSymbol ".." then
    return start ++ (← rules.patternRangeRest)
  return start

/-- A binding of a name, perhaps to what a further pattern matches. -/
def patternBinding : Parser TokenStream := do
  let byReference ← keyword? "ref"
  let access ← keyword? "mut"
  let name ← wordWhere fun word => word == "self" || Word.isIdent word
  let further ← takeIf (peekSymbol "@") do return (← symbol "@") ++ (← rules.pattern)
  return byReference ++ access ++ [.word name] ++ further

/-- The number of a field, in decimal digits. -/
def fieldNumber? (spelling : String) : Option String :=
  match Literal.readWhole spelling.toList with
  | some (number, []) => if number < Nat.pow 2 32 then some (Nat.repr number) else none
  | _ => none

/-- A field of a value: its name, or its number. -/
def member : Parser (TokenStream × Bool) := do
  match ← next with
  | .word name => check (Word.isIdent name); return ([.word name], true)
  | .literal spelling =>
    let number ← (fieldNumber? spelling : Option String)
    return ([.literal number], false)
  | _ => failure

/-- A field in a pattern for a value with named fields. -/
def patternField : Parser TokenStream := do
  let marks ← inOrder [keyword? "box", keyword? "ref", keyword? "mut"]
  if !marks.isEmpty then return marks ++ (← identToken)
  let (name, named) ← member
  if !named || (← peekSymbol ":") then
    return name ++ (← symbol ":") ++ (← rules.alternatives)
  return name

/-- The braces of a pattern for a value with named fields. Two points at the end stand for all
other fields. -/
def patternFields : Parser TokenStream := groupToken .brace do
  let fields ← repeated atEnd do
    let attributes ← rules.outerAttributes
    if ← peekSymbol ".." then
      let rest ← symbol ".."
      check (← atEnd)
      return attributes ++ rest
    let field ← rules.patternField
    return attributes ++ field ++ (← commaBefore)
  return fields.flatten

/-- A pattern that starts with a path: a constant, a value with fields, a range or a macro call. -/
def patternPath : Parser TokenStream := do
  let path ← rules.exprPath
  if path.isPlainPath && (← peekSymbol "!") && !(← peekSymbol "!=") then
    let bang ← symbol "!"
    let (delimiter, content) ← anyGroup
    return path.tokens ++ bang ++ [.group delimiter content]
  if ← peekGroup .brace then return path.tokens ++ (← rules.patternFields)
  if ← peekGroup .parenthesis then
    return path.tokens ++ (← groupToken .parenthesis (commaList rules.alternatives))
  if ← peekSymbol ".." then return path.tokens ++ (← rules.patternRangeRest)
  return path.tokens

/-- Whether a pattern that starts with a path follows, which a lone name does not. -/
def peekPatternPath : Parser Bool := do
  let afterName := (← peekSymbol "::" 1) || (← peekSymbol "!" 1) || (← peekGroup .brace 1) ||
    (← peekGroup .parenthesis 1) || (← peekSymbol ".." 1)
  return ((← peekIdent) && afterName) || ((← peekKeyword "self") && (← peekSymbol "::" 1)) ||
    (← peekSymbol "::") || (← peekSymbol "<") || (← peekKeywordOf ["Self", "super", "crate"])

/-- A pattern without alternatives. -/
def patternRule : Parser TokenStream := do
  if ← peekPatternPath then rules.patternPath
  else if ← peekKeyword "_" then keyword "_"
  else if ← peekKeyword "box" then asWritten do return (← keyword "box") ++ (← rules.pattern)
  else if (← peekSymbol "-") || (← peekLiteral) || (← peekKeyword "const") then rules.patternLiteral
  else if (← peekKeywordOf ["ref", "mut", "self"]) || (← peekIdent) then rules.patternBinding
  else if ← peekSymbol "&" then
    return (← symbol "&") ++ (← keyword? "mut") ++ (← rules.pattern)
  else if ← peekGroup .parenthesis then groupToken .parenthesis (commaList rules.alternatives)
  else if ← peekGroup .bracket then groupToken .bracket (commaList rules.alternatives)
  else if (← peekSymbol "..") && !(← peekSymbol "...") then rules.patternRangeRest
  else failure

end KeyedCoding.Rules
