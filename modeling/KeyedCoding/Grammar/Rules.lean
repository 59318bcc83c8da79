import KeyedCoding.Grammar.Expr

/-!
# The recursive parts of the grammar

Types, expressions, patterns and statements contain each other. Each rule of the grammar is
therefore written for a given record of parsers for the parts that it contains.

## Main definitions

* `Rules`: a parser for each recursive part of the grammar.
* `Rules.exhausted`: no part can be read.
* `PathStyle`: where a path stands, which decides how its arguments are written.
-/

namespace KeyedCoding

/-- A parser for each recursive part of the grammar. -/
structure Rules where
  /-- A type; bounds may be joined by `+` if the argument says so. -/
  type : Bool → Parser Ty
  /-- An argument in angle brackets. -/
  genericArg : Parser GenericArg
  /-- A parameter in angle brackets. -/
  genericParam : Parser PlacedArg
  /-- An expression; a brace after a path belongs to it if the argument says so. -/
  expr : Bool → Parser Expr
  /-- An operand with its leading operators. -/
  operand : Bool → Parser Expr
  /-- The operators after an operand that bind at least as strongly as a given strength. -/
  operators : Bool → Expr → Nat → Parser Expr
  /-- The calls, fields and indices after an expression. -/
  trailers : Expr → Parser Expr
  /-- An expression at the start of a statement or as the body of an arm. -/
  statementExpr : Parser Expr
  /-- A pattern without alternatives. -/
  pattern : Parser TokenStream
  /-- The statements of a block. -/
  statements : Parser TokenStream
  /-- An item, with its attributes. -/
  item : Parser TokenStream
  /-- A use tree. -/
  useTree : Parser TokenStream

/-- No part can be read. -/
def Rules.exhausted : Rules where
  type _ := failure
  genericArg := failure
  genericParam := failure
  expr _ := failure
  operand _ := failure
  operators _ _ _ := failure
  trailers _ := failure
  statementExpr := failure
  pattern := failure
  statements := failure
  item := failure
  useTree := failure

/-- In a type the arguments of a path follow its segment; in an expression `::` must part them. -/
inductive PathStyle where
  | inType
  | inExpr
  deriving DecidableEq

namespace Parser

/-- Take one of several operators, the first that follows. -/
def symbolOf : List String → Parser TokenStream
  | [] => failure
  | spelling :: rest => do
    if ← peekSymbol spelling then symbol spelling else symbolOf rest

/-- Whether one of several operators follows. -/
def peekSymbolOf : List String → Parser Bool
  | [] => return false
  | spelling :: rest => do
    if ← peekSymbol spelling then return true else peekSymbolOf rest

/-- Whether one of several keywords follows. -/
def peekKeywordOf (keywords : List String) (skip : Nat := 0) : Parser Bool :=
  peekWord keywords.contains skip

/-- Take a lifetime as a token. -/
def lifetimeToken : Parser TokenStream := return [.lifetime (← lifetime)]

/-- Take a group as a token. -/
def groupToken (delimiter : Delimiter) (content : Parser TokenStream) : Parser TokenStream :=
  return [.group delimiter (← group delimiter content)]

/-- Run a parser, and give back the tokens that it takes as they are written. -/
def asWritten {α : Type} (parser : Parser α) : Parser TokenStream := do
  let source ← get
  let _ ← parser
  return source.take (source.length - (← get).length)

/-- Take the comma that must follow unless all tokens have been read. -/
def commaBefore : Parser TokenStream := do if ← atEnd then return [] else symbol ","

/-- Parameters that fill the stream, each with its comma. The first one may be of a kind of its
own. -/
def paramList (param : Bool → Parser TokenStream) : Parser TokenStream := do
  if ← atEnd then return []
  let first ← param true
  return first ++ (← repeated atEnd (param false)).flatten

/-- Run parsers one after the other, and join their tokens. -/
def inOrder (parsers : List (Parser TokenStream)) : Parser TokenStream :=
  return (← parsers.mapM id).flatten

end Parser

end KeyedCoding
