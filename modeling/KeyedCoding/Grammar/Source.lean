import KeyedCoding.Grammar.StatementRules

/-!
# Reading parts of source text

The rules of the grammar are tied together for texts of a bounded depth, which the number of
tokens bounds. On top of them stand the readers for the parts of source text that are of use here.

## Main definitions

* `Rules.upTo`: the rules for a bounded depth.
* `Rules.forTokens`: the rules that suffice for a sequence of tokens.
* `Ty.ofText?`, `Expr.ofText?`, `Path.ofText?`, `Attribute.ofText?`, `Literal.ofText?`,
  `Visibility.ofText?`: the readers of source text.
-/

namespace KeyedCoding

namespace TokenTree

mutual

/-- The number of tokens in a tree, where a group counts as a token. -/
def count : TokenTree → Nat
  | .group _ content => countAll content + 1
  | _ => 1

/-- The number of tokens in a sequence of trees. -/
def countAll : List TokenTree → Nat
  | [] => 0
  | token :: rest => count token + countAll rest

end

end TokenTree

namespace Rules

/-- The rules of the grammar with given rules for the parts. -/
def step (rules : Rules) : Rules where
  type := rules.typeRule
  genericArg := rules.genericArgRule
  genericParam := rules.genericParamRule
  expr := rules.exprRule
  operand := rules.operandRule
  operators := rules.operatorsRule
  trailers := rules.trailersRule
  statementExpr := rules.statementExprRule
  pattern := rules.patternRule
  statements := rules.statementsRule
  item := rules.itemRule
  useTree := rules.useTreeRule

/-- The rules for a bounded depth of recursion. -/
def upTo : Nat → Rules
  | 0 => exhausted
  | depth + 1 => step (upTo depth)

/-- The rules that suffice for a sequence of tokens: at most a handful of rules refer to each other
before one of them takes a token. -/
def forTokens (tokens : TokenStream) : Rules := upTo (8 * TokenTree.countAll tokens + 8)

end Rules

/-- Read a source text as a whole with a parser that is given the rules of the grammar. -/
def readSource {α : Type} (parser : Rules → Parser α) (source : String) : Option α :=
  (TokenStream.ofText? source).bind fun tokens => (parser (Rules.forTokens tokens)).run? tokens

/-- The type that a source text spells. -/
def Ty.ofText? (source : String) : Option Ty := readSource (fun rules => rules.type true) source

/-- The expression that a source text spells. -/
def Expr.ofText? (source : String) : Option Expr := readSource (fun rules => rules.expr true) source

/-- The path that a source text spells, with arguments as in a type. -/
def Path.ofText? (source : String) : Option Path :=
  readSource (fun rules => rules.path .inType) source

/-- The literal that a source text spells. -/
def Literal.ofText? (source : String) : Option Literal :=
  readSource (fun _ => Parser.literal) source

/-- The attribute that a source text spells, with its brackets. -/
def Attribute.ofText? (source : String) : Option Attribute :=
  readSource (fun rules => do
    let _ ← Parser.symbol "#"
    Parser.group .bracket rules.attributeContent) source

/-- Who may use a declared item: the tokens in front of it, if any. -/
structure Visibility where
  tokens : TokenStream

/-- The visibility that a source text spells. -/
def Visibility.ofText? (source : String) : Option Visibility :=
  (readSource (fun _ => Rules.visibility) source).map Visibility.mk

end KeyedCoding
