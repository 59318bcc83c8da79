import KeyedCoding.Grammar.Rules

/-!
# Attributes

An attribute stands in front of what it says something about. Inside its brackets is a path, alone
or with a list of tokens or an assigned expression.

## Main definitions

* `Attribute`: the content of an attribute.
* `Rules.attributeContent`: the content of an attribute of the grammar.
* `Rules.outerAttributes`: the attributes in front of a part of the source.
* `Rules.block`, `Rules.attributedBlock`: blocks, of which the second may have attributes inside.
-/

namespace KeyedCoding

/-- The content of an attribute. -/
inductive Attribute where
  | path (name : Path)
  /-- A path with a group of tokens, which are kept as they are. -/
  | list (name : Path) (delimiter : Delimiter) (content : TokenStream)
  | assignment (name : Path) (value : Expr)

namespace Attribute

/-- The tokens of the content of an attribute. -/
def tokens : Attribute → TokenStream
  | .path name => name.tokens
  | .list name delimiter content => name.tokens ++ [.group delimiter content]
  | .assignment name value => name.tokens ++ TokenStream.symbol "=" ++ value.tokens

end Attribute

namespace Rules

open KeyedCoding.Parser

variable (rules : Rules)

/-- Words with `::` between them. -/
def wordPath (test : String → Bool) : Parser Path := do
  let leading ← symbol? "::"
  let first ← wordWhere test
  let rest ← repeated (return !(← peekSymbol "::")) do
    let _ ← symbol "::"
    wordWhere test
  return ⟨!leading.isEmpty, (first :: rest).map .plain⟩

/-- The path of an attribute: identifiers and the keywords that may stand in a path. -/
def attributePath : Parser Path := do
  if ← peekKeyword "unsafe" then return ⟨false, [.plain (← wordWhere fun _ => true)]⟩
  wordPath fun word => Word.isIdent word || ["super", "self", "Self", "crate"].contains word

/-- What follows the path of an attribute. A literal that is all of the assigned value is kept as
such, even with a sign; an assigned value has no attributes of its own. -/
def attributeAfter (path : Path) : Parser Attribute := do
  if (← peekGroup .parenthesis) || (← peekGroup .bracket) || (← peekGroup .brace) then
    let (delimiter, tokens) ← anyGroup
    return .list path delimiter tokens
  if ← peekSymbol "=" then
    let _ ← symbol "="
    match literal.run? (← get) with
    | some value => set ([] : TokenStream); return .assignment path (.literal value)
    | none =>
      check !((← peekSymbol "#") && (← peekGroup .bracket 1))
      return .assignment path (← rules.expr true)
  return .path path

/-- The content of an attribute. -/
def attributeContent : Parser Attribute := do rules.attributeAfter (← attributePath)

/-- An attribute in front of something, as tokens. -/
def outerAttribute : Parser TokenStream := do
  let mark ← symbol "#"
  return mark ++ (← groupToken .bracket do return (← rules.attributeContent).tokens)

/-- The attributes in front of something. -/
def outerAttributes : Parser TokenStream := do
  return (← repeated (return !(← peekSymbol "#")) rules.outerAttribute).flatten

/-- The attributes at the start of a block that say something about the block. -/
def innerAttributes : Parser TokenStream := do
  let stop : Parser Bool := return !((← peekSymbol "#") && (← peekSymbol "!" 1))
  let attributes ← repeated stop do
    let marks := (← symbol "#") ++ (← symbol "!")
    return marks ++ (← groupToken .bracket do return (← rules.attributeContent).tokens)
  return attributes.flatten

/-- A block. -/
def block : Parser TokenStream := groupToken .brace rules.statements

/-- A block with attributes at its start. -/
def attributedBlock : Parser TokenStream := groupToken .brace do
  return (← rules.innerAttributes) ++ (← rules.statements)

end Rules

end KeyedCoding
