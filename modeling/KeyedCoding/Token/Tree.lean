/-!
# Token trees

Source text is read as a sequence of token trees: words, lifetimes, literals, punctuation
characters and delimited groups.

## Main definitions

* `Delimiter`: the brackets of a group. The invisible one groups without being written.
* `TokenTree`, `TokenStream`: a token, and a sequence of tokens.
* `TokenStream.symbol`: an operator as the punctuation characters that spell it.
* `TokenStream.text`: the text of a sequence, with one space between neighbours.
-/

namespace KeyedCoding

/-- The brackets around a group of tokens. -/
inductive Delimiter where
  | parenthesis
  | bracket
  | brace
  | invisible
  deriving DecidableEq, Repr

/-- A token, or a group of tokens between delimiters. -/
inductive TokenTree where
  /-- An identifier or a keyword; a raw identifier keeps its `r#`. -/
  | word (text : String)
  /-- A lifetime or label, without its apostrophe. -/
  | lifetime (name : String)
  /-- A literal as it is written. -/
  | literal (text : String)
  /-- A punctuation character; `joint` if it is glued to the character after it. -/
  | punct (char : Char) (joint : Bool)
  | group (delimiter : Delimiter) (content : List TokenTree)
  deriving Repr

/-- A sequence of token trees. -/
abbrev TokenStream := List TokenTree

namespace TokenTree

/-- Whether the next token follows without a space. -/
def isJoint : TokenTree → Bool
  | punct _ joint => joint
  | _ => false

end TokenTree

namespace Delimiter

/-- The text before the content of a group. -/
def opening : Delimiter → String
  | parenthesis => "("
  | bracket => "["
  | brace => "\x7b "
  | invisible => ""

/-- The text after the content of a group, given whether there is any content: braces keep a
space on both sides of it. -/
def closing : Delimiter → Bool → String
  | parenthesis, _ => ")"
  | bracket, _ => "]"
  | brace, true => "\x7d"
  | brace, false => " \x7d"
  | invisible, _ => ""

end Delimiter

mutual

/-- Write a token after `out`. -/
def TokenTree.writeTo (out : String) : TokenTree → String
  | .word text => out ++ text
  | .lifetime name => (out.push '\x27') ++ name
  | .literal text => out ++ text
  | .punct char _ => out.push char
  | .group delimiter content =>
    TokenTree.writeAllTo (out ++ delimiter.opening) content ++ delimiter.closing content.isEmpty

/-- Write tokens after `out`, with a space between two of them unless the first is joint. -/
def TokenTree.writeAllTo (out : String) : List TokenTree → String
  | [] => out
  | [token] => token.writeTo out
  | token :: rest =>
    let out := token.writeTo out
    TokenTree.writeAllTo (if token.isJoint then out else out.push ' ') rest

end

namespace TokenStream

/-- The text of a sequence of tokens. -/
def text (tokens : TokenStream) : String := TokenTree.writeAllTo "" tokens

/-- The punctuation characters of an operator, glued to each other. -/
def glued : List Char → TokenStream
  | [] => []
  | [c] => [.punct c false]
  | c :: rest => .punct c true :: glued rest

/-- An operator as it is spelt. -/
def symbol (spelling : String) : TokenStream := glued spelling.toList

/-- Tokens between round brackets. -/
def parens (content : TokenStream) : TokenTree := .group .parenthesis content

/-- Tokens between square brackets. -/
def brackets (content : TokenStream) : TokenTree := .group .bracket content

/-- Tokens between braces. -/
def braces (content : TokenStream) : TokenTree := .group .brace content

end TokenStream

end KeyedCoding
