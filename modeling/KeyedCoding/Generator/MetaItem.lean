import KeyedCoding.Generator.Mode

/-!
# Modes in attributes

A mode is given to an attribute as an item: a literal, or a path alone, with a list, or with an
assigned value. Only a string literal names a mode.

## Main definitions

* `MetaItem`: an item of an attribute.
* `MetaItem.ofText?`: the item that a source text spells.
* `Mode.ofMetaItem`: the mode that an item names.
-/

namespace KeyedCoding

/-- An item of an attribute. -/
inductive MetaItem where
  | literal (value : Literal)
  | attribute (content : Attribute)

/-- Why an item names no mode. -/
inductive ModeError where
  | unknownValue (text : String)
  | unexpectedType (name : String)
  | unexpectedFormat (name : String)
  /-- The list of an item is no list of items. -/
  | expectedItem
  | expectedComma
  | expectedExpr
  deriving DecidableEq, Repr

namespace ModeError

/-- How an error is told. -/
def message : ModeError → String
  | unknownValue text => s!"Unknown value: `{text}`"
  | unexpectedType name => s!"Unexpected type `{name}`"
  | unexpectedFormat name => s!"Unexpected meta-item format `{name}`"
  | expectedItem => "expected identifier or literal"
  | expectedComma => "expected `,`"
  | expectedExpr => "expected an expression"

end ModeError

namespace MetaItem

open KeyedCoding.Parser

/-- Whether a truth value is assigned to, which makes it a path. -/
def peekAssignedWord : Parser Bool :=
  return (← peekKeywordOf ["true", "false"]) && (← peekSymbol "=" 1)

/-- Whether an item can start here. -/
def peekStart : Parser Bool := do
  return (← peekLiteral) || (← peekAnyWord) || ((← peekSymbol "::") && (← peekAnyWord 2))

/-- Take an item. Any word may stand in its path. -/
def parser (rules : Rules) : Parser MetaItem := do
  if (← peekLiteral) && !(← peekAssignedWord) then return .literal (← Parser.literal)
  return .attribute (← rules.attributeAfter (← Rules.wordPath fun _ => true))

/-- The item that a source text spells. -/
def ofText? (source : String) : Option MetaItem := readSource parser source

/-- Check that tokens are items with commas between them, in at most `fuel` steps. -/
def checkListAtMost (rules : Rules) : Nat → TokenStream → Except ModeError Unit
  | 0, _ => .error .expectedItem
  | _ + 1, [] => .ok ()
  | fuel + 1, tokens =>
    if (peekStart.run' tokens).getD false then
      match (parser rules).run tokens with
      | none => .error .expectedExpr
      | some (_, []) => .ok ()
      | some (_, .punct ',' _ :: rest) => checkListAtMost rules fuel rest
      | some _ => .error .expectedComma
    else .error .expectedItem

/-- Check that tokens are items with commas between them. -/
def checkList (tokens : TokenStream) : Except ModeError Unit :=
  checkListAtMost (Rules.forTokens tokens) (tokens.length + 1) tokens

end MetaItem

namespace Expr.Form

/-- How an error names a form of expression. -/
def name : Form → String
  | array => "array"
  | assign => "assign"
  | async => "async"
  | await => "await"
  | binary _ => "binary"
  | block => "block"
  | «break» => "break"
  | call => "call"
  | cast => "cast"
  | closure => "closure"
  | const => "const"
  | «continue» => "continue"
  | field => "field"
  | forLoop => "for_loop"
  | «if» => "if"
  | index => "index"
  | infer => "infer"
  | «let» => "let"
  | literal => "lit"
  | loop => "loop"
  | macroCall _ => "macro"
  | «match» => "match"
  | methodCall => "method_call"
  | paren => "paren"
  | path => "path"
  | range => "range"
  | rawAddress => "unknown"
  | reference => "reference"
  | «repeat» => "repeat"
  | «return» => "return"
  | struct => "struct"
  | «try» => "try"
  | tryBlock => "try_block"
  | tuple => "tuple"
  | unary => "unary"
  | unsafeBlock => "unsafe"
  | verbatim => "verbatim"
  | «while» => "while"
  | yield => "yield"

end Expr.Form

namespace Mode

/-- The mode that a literal names. -/
def ofLiteral (literal : Literal) : Except ModeError Mode :=
  match literal.value with
  | .text value =>
    match ofText? value with
    | some mode => .ok mode
    | none => .error (.unknownValue value)
  | .character _ => .error (.unexpectedType "char")
  | .integer _ => .error (.unexpectedType "int")
  | .fraction _ => .error (.unexpectedType "float")
  | .boolean _ => .error (.unexpectedType "bool")
  | .bytes => .error (.unexpectedType "byte string")
  | .byte => .error (.unexpectedType "byte")
  | .nullEnded => .error (.unexpectedType "unknown")

/-- The mode that an item names. -/
def ofMetaItem : MetaItem → Except ModeError Mode
  | .literal value => ofLiteral value
  | .attribute (.path _) => .error (.unexpectedFormat "word")
  | .attribute (.list _ _ content) =>
    match MetaItem.checkList content with
    | .ok () => .error (.unexpectedFormat "list")
    | .error error => .error error
  | .attribute (.assignment _ (.literal value)) => ofLiteral value
  | .attribute (.assignment _ (.compound form _)) => .error (.unexpectedType form.name)

end Mode

end KeyedCoding
