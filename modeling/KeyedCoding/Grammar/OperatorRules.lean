import KeyedCoding.Grammar.PatternRules

/-!
# Rules for operators

Operators bind by their strength.

## Main definitions

* `Strength`: how strongly operators bind.
* `Rules.rangeSign`, `Rules.rangeEnd`: the sign of a range and what follows it.
* `Rules.operatorsRule`: the operators after an operand.
-/

namespace KeyedCoding

namespace Strength

/-- The weakest strength, which ends an expression. -/
def least : Nat := 0

/-- How strongly an assignment binds. -/
def assignment : Nat := 1

/-- How strongly a range binds. -/
def range : Nat := 2

/-- How strongly a comparison binds. -/
def comparison : Nat := 6

/-- How strongly a cast binds. -/
def cast : Nat := 13

/-- The binary operators and their strength; an operator stands after those that it starts. -/
def binary : List (String × Nat) :=
  [("+=", 1), ("-=", 1), ("*=", 1), ("/=", 1), ("%=", 1), ("^=", 1), ("&=", 1), ("|=", 1),
   ("<<=", 1), (">>=", 1), ("&&", 4), ("||", 3), ("<<", 10), (">>", 10), ("==", 6), ("<=", 6),
   ("!=", 6), (">=", 6), ("+", 11), ("-", 11), ("*", 12), ("/", 12), ("%", 12), ("^", 8),
   ("&", 9), ("|", 7), ("<", 6), (">", 6)]

end Strength

namespace Rules

open KeyedCoding.Parser

variable (rules : Rules)

/-! ### Looking ahead -/

/-- The binary operator that follows, with its strength. -/
def peekBinary : Parser (Option (String × Nat)) := do
  let tokens ← get
  return Strength.binary.find? fun (spelling, _) => startsWithSymbol spelling.toList tokens

/-- The strength of whatever operator follows. -/
def peekStrength : Parser Nat := do
  match ← peekBinary with
  | some (_, strength) => return strength
  | none =>
    if (← peekSymbol "=") && !(← peekSymbol "=>") then return Strength.assignment
    else if ← peekSymbol ".." then return Strength.range
    else if ← peekKeyword "as" then return Strength.cast
    else return Strength.least

/-! ### Operators -/

/-- The operand on the right of an operator, with the operators after it that bind more strongly,
at most `fuel` of them. -/
def strongerOperators (allowBrace : Bool) (strength : Nat) : Nat → Expr → Parser Expr
  | 0, operand => return operand
  | fuel + 1, operand => do
    let next ← peekStrength
    if strength < next || (next == strength && strength == Strength.assignment) then
      let before := (← get).length
      let operand ← rules.operators allowBrace operand next
      if (← get).length == before then return operand
      strongerOperators allowBrace strength fuel operand
    else return operand

/-- The right side of an operator. -/
def rightSide (allowBrace : Bool) (strength : Nat) : Parser Expr := do
  let operand ← rules.operand allowBrace
  rules.strongerOperators allowBrace strength (← get).length operand

/-- The sign of a range. -/
def rangeSign : Parser TokenStream := do
  if ← peekSymbol "..=" then symbol "..="
  else
    check !(← peekSymbol "...")
    symbol ".."

/-- The upper end of a range after its sign, which may be open. -/
def rangeEnd (allowBrace : Bool) (sign : TokenStream) : Parser TokenStream := do
  let stops := (← atEnd) ||
    (← peekSymbolOf [",", ";", "?", "=>", "=", "+", "/", "%", "^", ">", "<=", "!=", "-=", "*=",
      "&=", "|=", "<<="]) ||
    ((← peekSymbol ".") && !(← peekSymbol "..")) ||
    (!allowBrace && (← peekGroup .brace)) || (← peekKeyword "as")
  if sign.length == 2 && stops then return []
  return (← rules.rightSide allowBrace Strength.range).tokens

/-- What cannot follow the type of a cast. -/
def peekAfterCast : Parser Bool :=
  return ((← peekSymbol ".") && !(← peekSymbol "..")) || (← peekSymbol "?") ||
    (← peekGroup .bracket) || (← peekGroup .parenthesis)

/-- The operators after an operand that bind at least as strongly as `least`. Comparisons do not
chain, and a range is no operand. -/
def operatorsRule (allowBrace : Bool) (left : Expr) (least : Nat) : Parser Expr := do
  if left.form == .range then return left
  match ← peekBinary with
  | some (spelling, strength) =>
    if strength < least then return left
    check !(strength == Strength.comparison && left.form == .binary Strength.comparison)
    let operator ← symbol spelling
    let right ← rules.rightSide allowBrace strength
    let whole := left.tokens ++ operator ++ right.tokens
    rules.operators allowBrace (.compound (.binary strength) whole) least
  | none =>
    if least ≤ Strength.assignment && (← peekSymbol "=") && !(← peekSymbol "=>") then
      let equals ← symbol "="
      let right ← rules.rightSide allowBrace Strength.assignment
      let whole := left.tokens ++ equals ++ right.tokens
      rules.operators allowBrace (.compound .assign whole) least
    else if least ≤ Strength.range && (← peekSymbol "..") then
      let sign ← rangeSign
      let finish ← rules.rangeEnd allowBrace sign
      rules.operators allowBrace (.compound .range (left.tokens ++ sign ++ finish)) least
    else if least ≤ Strength.cast && (← peekKeyword "as") then
      let sign ← keyword "as"
      let target ← rules.type false
      check !(← peekAfterCast)
      rules.operators allowBrace (.compound .cast (left.tokens ++ sign ++ target.tokens)) least
    else return left

end Rules

end KeyedCoding
