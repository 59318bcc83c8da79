import KeyedCoding.Grammar.Literal
import KeyedCoding.Grammar.Ty

/-!
# Expressions

An expression is kept as its tokens and its outermost form; only a literal is kept as such.

## Main definitions

* `Expr.Form`: the outermost form of an expression.
* `Expr`: an expression.
-/

namespace KeyedCoding

/-- The outermost form of an expression that is no bare literal. -/
inductive Expr.Form where
  | array
  | assign
  | async
  | await
  /-- Operands of a binary operator of the given strength. -/
  | binary (strength : Nat)
  | block
  | break
  | call
  | cast
  | closure
  | const
  | continue
  | field
  | forLoop
  | if
  | index
  | infer
  | let
  /-- A literal with attributes. -/
  | literal
  | loop
  /-- The call of a macro, with braces or with other delimiters. -/
  | macroCall (braced : Bool)
  | match
  | methodCall
  | paren
  | path
  | range
  | rawAddress
  | reference
  | repeat
  | return
  | struct
  | try
  | tryBlock
  | tuple
  | unary
  | unsafeBlock
  /-- An expression that is kept as it is written. -/
  | verbatim
  | while
  | yield
  deriving DecidableEq, Repr

/-- An expression. -/
inductive Expr where
  | literal (value : Literal)
  | compound (form : Expr.Form) (tokens : TokenStream)

namespace Expr

/-- The tokens of an expression. -/
def tokens : Expr → TokenStream
  | .literal value => value.tokens
  | .compound _ tokens => tokens

/-- The form of an expression. -/
def form : Expr → Form
  | .literal _ => .literal
  | .compound form _ => form

/-- An expression with attributes in front of it. -/
def withAttributes (attributes : TokenStream) (expr : Expr) : Expr :=
  if attributes.isEmpty then expr else .compound expr.form (attributes ++ expr.tokens)

namespace Form

/-- Whether an arm of a match with such a body ends without a comma, and a statement without a
semicolon. -/
def endsItself : Form → Bool
  | .if | .match | .block | .unsafeBlock | .while | .loop | .forLoop | .tryBlock | .const => true
  | _ => false

/-- Whether a statement of this form ends without a semicolon. -/
def endsStatement : Form → Bool
  | .macroCall braced => braced
  | form => form.endsItself

end Form

end Expr

end KeyedCoding
