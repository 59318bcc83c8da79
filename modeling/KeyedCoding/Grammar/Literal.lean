import KeyedCoding.Grammar.Parser
import KeyedCoding.Token.Literal

/-!
# Literals

A literal of the source: its spelling, what it denotes, and for a number the minus sign that may
stand in front of it.

## Main definitions

* `Literal`: a literal.
* `Literal.text`: the text that a literal stands for when it is used as a name.
* `Parser.literal`: a literal at the front of a stream.
-/

namespace KeyedCoding

/-- A literal of the source. -/
structure Literal where
  /-- Whether a minus sign stands before the number. -/
  negative : Bool
  spelling : String
  value : Literal.Value
  deriving DecidableEq, Repr

namespace Literal

/-- The tokens of a literal; a minus sign is a token of its own. -/
def tokens (literal : Literal) : TokenStream :=
  (if literal.negative then TokenStream.symbol "-" else []) ++
    [match literal.value with
      | .boolean _ => .word literal.spelling
      | _ => .literal literal.spelling]

/-- The text that a literal stands for: the value of a string or character, a whole number in
decimal, a number with a fraction by its digits, a truth value by its name, and any other literal
as it is written. -/
def text (literal : Literal) : String :=
  let sign := if literal.negative then "-" else ""
  match literal.value with
  | .text value => value
  | .character c => String.singleton c
  | .integer magnitude => sign ++ Nat.repr magnitude
  | .fraction digits => sign ++ digits
  | .boolean _ => literal.spelling
  | _ => TokenStream.text literal.tokens

/-- The literal that a token spells. -/
def ofSpelling? (spelling : String) : Option Literal :=
  match read spelling.toList with
  | some (value, []) => some ⟨false, spelling, value⟩
  | _ => none

/-- Whether a literal is a number. -/
def isNumber (literal : Literal) : Bool :=
  match literal.value with
  | .integer _ => true
  | .fraction _ => true
  | _ => false

end Literal

namespace Parser

/-- Take a literal: a literal token, a truth value, or a number after a minus sign. -/
def literal : Parser Literal := do
  match ← next with
  | .literal spelling => (Literal.ofSpelling? spelling : Option Literal)
  | .word "true" => return ⟨false, "true", .boolean true⟩
  | .word "false" => return ⟨false, "false", .boolean false⟩
  | .punct '-' _ =>
    match ← next with
    | .literal spelling =>
      let literal ← (Literal.ofSpelling? spelling : Option Literal)
      check literal.isNumber
      return { literal with negative := true }
    | _ => failure
  | _ => failure

/-- Whether a literal follows. -/
def peekLiteral : Parser Bool := return (StateT.run literal (← get)).isSome

/-- Whether a string literal follows. -/
def peekString : Parser Bool :=
  return match StateT.run literal (← get) with
    | some (⟨_, _, .text _⟩, _) => true
    | _ => false

end Parser

end KeyedCoding
