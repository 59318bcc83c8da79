import KeyedCoding.Token.Tree

/-!
# Parsers over token streams

A parser takes tokens from the front of a stream and gives a result, or fails. The parsers of the
grammar give back the tokens they have read, with the operators of the grammar glued and all other
punctuation apart, so that what is printed does not depend on the blanks of the source.

## Main definitions

* `Parser`: a parser over a token stream.
* `Parser.run?`: the result of a parser that reads the whole stream.
* `Parser.symbol`, `Parser.keyword`, `Parser.group`: the basic parsers.
* `Parser.separated`: a list with separators, of which the last item may have one too.
-/

namespace KeyedCoding

/-- A parser takes tokens from the front of a stream. -/
abbrev Parser (α : Type) := StateT TokenStream Option α

namespace Parser

/-- The result of a parser that reads the whole stream. -/
def run? {α : Type} (parser : Parser α) (tokens : TokenStream) : Option α :=
  match StateT.run parser tokens with
  | some (result, []) => some result
  | _ => none

/-! ### Looking at the tokens ahead -/

/-- Whether a stream starts with the characters of an operator, glued to each other. The last one
may be glued to more. -/
def startsWithSymbol : List Char → TokenStream → Bool
  | [], _ => true
  | [c], .punct c' _ :: _ => c == c'
  | c :: cs, .punct c' joint :: rest => c == c' && joint && startsWithSymbol cs rest
  | _, _ => false

/-- Whether an operator follows after `skip` tokens. -/
def peekSymbol (spelling : String) (skip : Nat := 0) : Parser Bool :=
  return startsWithSymbol spelling.toList ((← get).drop skip)

/-- Whether a test holds of the word that follows after `skip` tokens. -/
def peekWord (test : String → Bool) (skip : Nat := 0) : Parser Bool :=
  return match (← get).drop skip with
    | .word text :: _ => test text
    | _ => false

/-- Whether a keyword follows after `skip` tokens. -/
def peekKeyword (keyword : String) (skip : Nat := 0) : Parser Bool :=
  peekWord (· == keyword) skip

/-- Whether a group with a delimiter follows after `skip` tokens. -/
def peekGroup (delimiter : Delimiter) (skip : Nat := 0) : Parser Bool :=
  return match (← get).drop skip with
    | .group delimiter' _ :: _ => delimiter == delimiter'
    | _ => false

/-- Whether a lifetime follows after `skip` tokens. -/
def peekLifetime (skip : Nat := 0) : Parser Bool :=
  return match (← get).drop skip with
    | .lifetime _ :: _ => true
    | _ => false

/-- Whether all tokens have been read. -/
def atEnd : Parser Bool := return (← get).isEmpty

/-! ### Taking tokens -/

/-- Fail unless a condition holds. -/
def check (condition : Bool) : Parser Unit := if condition then pure () else failure

/-- Take the first token. -/
def next : Parser TokenTree := do
  match ← get with
  | token :: rest => set rest; return token
  | [] => failure

/-- Take an operator. -/
def symbol (spelling : String) : Parser TokenStream := do
  check (← peekSymbol spelling)
  modify (·.drop spelling.length)
  return TokenStream.symbol spelling

/-- Take a word that passes a test. -/
def wordWhere (test : String → Bool) : Parser String := do
  match ← next with
  | .word text => check (test text); return text
  | _ => failure

/-- Take a keyword. -/
def keyword (text : String) : Parser TokenStream := do
  return [.word (← wordWhere (· == text))]

/-- Take a lifetime. -/
def lifetime : Parser String := do
  match ← next with
  | .lifetime name => return name
  | _ => failure

/-- Take a group with a delimiter, whose content a parser reads to its end. -/
def group {α : Type} (delimiter : Delimiter) (content : Parser α) : Parser α := do
  match ← next with
  | .group delimiter' tokens => check (delimiter == delimiter'); (content.run? tokens : Option α)
  | _ => failure

/-- Take a written group of any delimiter as it is. -/
def anyGroup : Parser (Delimiter × TokenStream) := do
  match ← next with
  | .group delimiter tokens => check (delimiter != .invisible); return (delimiter, tokens)
  | _ => failure

/-! ### Combining parsers -/

/-- Run a parser if a condition holds, else take nothing. -/
def takeIf (condition : Parser Bool) (parser : Parser TokenStream) : Parser TokenStream := do
  if ← condition then parser else return []

/-- Take an operator if it follows. -/
def symbol? (spelling : String) : Parser TokenStream :=
  takeIf (peekSymbol spelling) (symbol spelling)

/-- Take a keyword if it follows. -/
def keyword? (text : String) : Parser TokenStream := takeIf (peekKeyword text) (keyword text)

/-- The result of a parser, or nothing taken if it fails. -/
def attempt {α : Type} (parser : Parser α) : Parser (Option α) := do
  match StateT.run parser (← get) with
  | some (result, rest) => set rest; return some result
  | none => return none

/-- Repeat a parser, at most `fuel` times, until a condition holds. -/
def repeatUntil {α : Type} (stop : Parser Bool) (parser : Parser α) : Nat → Parser (List α)
  | 0 => failure
  | fuel + 1 => do
    if ← stop then return []
    let first ← parser
    return first :: (← repeatUntil stop parser fuel)

/-- Repeat a parser until a condition holds. Each run must take a token. -/
def repeated {α : Type} (stop : Parser Bool) (parser : Parser α) : Parser (List α) := do
  repeatUntil stop parser ((← get).length + 1)

/-- An item of a list, and whether the separator follows it. -/
abbrev Item (α : Type) := α × Bool

/-- Items with a separator between them until a condition holds, at most `fuel` of them. -/
def separatedAtMost {α : Type} (stop : Parser Bool) (separator : String) (item : Parser α) :
    Nat → Parser (List (Item α))
  | 0 => failure
  | fuel + 1 => do
    if ← stop then return []
    let first ← item
    if ← stop then return [(first, false)]
    let _ ← symbol separator
    return (first, true) :: (← separatedAtMost stop separator item fuel)

/-- Items with a separator between them until a condition holds. The last item may be followed by
a separator as well. -/
def separated {α : Type} (stop : Parser Bool) (separator : String) (item : Parser α) :
    Parser (List (Item α)) := do
  separatedAtMost stop separator item ((← get).length + 1)

/-- The tokens of a list of items with their separators. -/
def itemTokens (separator : String) (items : List (Item TokenStream)) : TokenStream :=
  items.flatMap fun (tokens, separated) =>
    if separated then tokens ++ TokenStream.symbol separator else tokens

/-- Items with commas that fill the stream. -/
def commaList (item : Parser TokenStream) : Parser TokenStream := do
  return itemTokens "," (← separated atEnd "," item)

end Parser

end KeyedCoding
