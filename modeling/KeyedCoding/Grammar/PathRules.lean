import KeyedCoding.Grammar.Attribute

/-!
# Rules for paths

## Main definitions

* `Rules.segment`: a segment of a path, perhaps with arguments.
* `Rules.path`, `Rules.pathBelowType`: paths, and paths below a type.
-/

namespace KeyedCoding.Rules

open KeyedCoding.Parser

variable (rules : Rules)

/-- The keywords that may stand as a segment without arguments. -/
def keywordSegments : List String := ["super", "self", "crate", "try"]

/-- A segment of a path. -/
def segment (style : PathStyle) : Parser Segment := do
  if ← peekKeywordOf keywordSegments then return .plain (← wordWhere keywordSegments.contains)
  let name ← wordWhere fun word => word == "Self" || Word.isIdent word
  let opens := style == .inType && (← peekSymbol "<") && !(← peekSymbol "<=") &&
    !(← peekSymbol "<<=")
  let turbofish := (← peekSymbol "::") && (← peekSymbol "<" 2)
  if opens || turbofish then
    let _ ← symbol? "::"
    let _ ← symbol "<"
    let args ← separated (peekSymbol ">") "," rules.genericArg
    let _ ← symbol ">"
    return .applied name turbofish (args.map (·.1)) ((args.getLast?.map (·.2)).getD false)
  else return .plain name

/-- The segments of a path after its first, at most `fuel` of them. A `::` before parentheses is
not part of the path. -/
def moreSegments (style : PathStyle) : Nat → Parser (List Segment)
  | 0 => return []
  | fuel + 1 => do
    if (← peekSymbol "::") && !(← peekGroup .parenthesis 2) then
      let _ ← symbol "::"
      let next ← rules.segment style
      return next :: (← moreSegments style fuel)
    else return []

/-- A path. -/
def path (style : PathStyle) : Parser Path := do
  let leading ← symbol? "::"
  let first ← rules.segment style
  return ⟨!leading.isEmpty, first :: (← rules.moreSegments style (← get).length)⟩

/-- A path below a type in angle brackets, which may name a trait of it. -/
def pathBelowType (style : PathStyle) : Parser Ty := do
  let opening ← symbol "<"
  let subject ← rules.type true
  let asTrait ← takeIf (peekKeyword "as") do
    return (← keyword "as") ++ (← rules.path .inType).tokens
  let closing ← symbol ">"
  let _ ← symbol "::"
  let first ← rules.segment style
  let rest ← rules.moreSegments style (← get).length
  return .qualified (opening ++ subject.tokens ++ asTrait ++ closing) (first :: rest)

/-- Whether a path follows. -/
def peekPath : Parser Bool :=
  return (← peekIdent) || (← peekKeywordOf ["super", "self", "Self", "crate"]) ||
    (← peekSymbol "::") || (← peekSymbol "<")

end KeyedCoding.Rules
