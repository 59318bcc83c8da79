import KeyedCoding.Grammar.Parser
import KeyedCoding.Token.Lexer

/-!
# Words and identifiers

A word of the source is reserved or an identifier. An identifier has a name, and is written plainly
or raw; a reserved word can be an identifier only if it is written raw, and five words not even
then.

## Main definitions

* `Word.reserved`: the words that are not read as identifiers.
* `Ident`: an identifier, by name and spelling.
* `Ident.ofText?`: the identifier that a source text spells.
* `Ident.ofName?`: the identifier with a name, plain if it can be read so.
-/

namespace KeyedCoding

open Text

namespace Word

/-- The words that are not read as identifiers. -/
def reserved : List String :=
  ["_", "abstract", "as", "async", "await", "become", "box", "break", "const", "continue", "crate",
   "do", "dyn", "else", "enum", "extern", "false", "final", "fn", "for", "if", "impl", "in", "let",
   "loop", "macro", "match", "mod", "move", "mut", "override", "priv", "pub", "ref", "return",
   "Self", "self", "static", "struct", "super", "trait", "true", "try", "type", "typeof", "unsafe",
   "unsized", "use", "virtual", "where", "while", "yield"]

/-- Whether a word is not read as an identifier. A raw word is read as one. -/
def isReserved (text : String) : Bool := reserved.contains text

/-- Whether a word is an identifier. -/
def isIdent (text : String) : Bool := !isReserved text

/-- Whether a text consists of the characters of one word. -/
def isWord : List Char → Bool
  | c :: rest => isIdentifierStart c && rest.all isIdentifierContinue
  | [] => false

end Word

/-- An identifier: a name, written plainly or raw. -/
structure Ident where
  raw : Bool
  name : String
  /-- The name is a word that may be written that way. -/
  valid : (Word.isWord name.toList && if raw then !Lexeme.unrawable.contains name
    else !Word.isReserved name) = true
  deriving DecidableEq

namespace Ident

/-- The identifier with a name in a spelling, if there is one. -/
def ofParts? (raw : Bool) (name : String) : Option Ident :=
  if valid : _ then some ⟨raw, name, valid⟩ else none

/-- The text of an identifier: a raw one has `r#` in front of its name. -/
def text (ident : Ident) : String := if ident.raw then "r#" ++ ident.name else ident.name

/-- The token of an identifier. -/
def token (ident : Ident) : TokenTree := .word ident.text

/-- The identifier that a word of the source is. -/
def ofWord? (text : String) : Option Ident :=
  match text.toList with
  | 'r' :: '#' :: name => ofParts? true (String.ofList name)
  | _ => ofParts? false text

/-- The identifier that a source text spells, with blanks and comments around it. -/
def ofText? (source : String) : Option Ident :=
  match TokenStream.ofText? source with
  | some [.word text] => ofWord? text
  | _ => none

/-- The identifier with a name: plain if the name can be read as an identifier, else raw. -/
def ofName? (name : String) : Option Ident := ofParts? (ofText? name).isNone name

end Ident

namespace Parser

/-- Whether an identifier follows after `skip` tokens. -/
def peekIdent (skip : Nat := 0) : Parser Bool := peekWord Word.isIdent skip

/-- Take an identifier. -/
def ident : Parser String := wordWhere Word.isIdent

/-- Take an identifier as a token. -/
def identToken : Parser TokenStream := return [.word (← ident)]

/-- Whether any word follows after `skip` tokens. -/
def peekAnyWord (skip : Nat := 0) : Parser Bool := peekWord (fun _ => true) skip

end Parser

end KeyedCoding
