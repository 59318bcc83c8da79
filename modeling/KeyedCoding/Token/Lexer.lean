import KeyedCoding.Text.Escape
import KeyedCoding.Token.Tree
import KeyedCoding.Token.Literal

/-!
# Cutting source text into token trees

The text is first cut into lexemes, of which comments and blanks leave no trace except that a
documentation comment stands for an attribute. The lexemes are then nested by their brackets.

## Main definitions

* `Lexeme`: a token without nesting, where brackets stand on their own.
* `Lexeme.cut`: the lexemes of a text.
* `TokenStream.nest`: the token trees of a sequence of lexemes.
* `TokenStream.ofText?`: the token trees of a text, or nothing for a text that cannot be cut.
-/

namespace KeyedCoding

open Text

/-- A token without nesting: brackets stand on their own. -/
inductive Lexeme where
  | word (text : String)
  | lifetime (name : String)
  | literal (text : String)
  | punct (char : Char) (joint : Bool)
  | opening (delimiter : Delimiter)
  | closing (delimiter : Delimiter)
  deriving DecidableEq, Repr

namespace Lexeme

/-- The characters that form operators. -/
def punctuation : List Char := "~!@#$%^&*-=+|;:,<.>/?\x27".toList

/-- Whether a text starts with a punctuation character, which the slash of a comment is not. -/
def startsWithPunctuation : List Char → Bool
  | '/' :: '/' :: _ => false
  | '/' :: '*' :: _ => false
  | c :: _ => punctuation.contains c
  | [] => false

/-! ### Comments -/

/-- The text after the end of `depth` nested block comments. -/
def afterBlockComment : Nat → List Char → Option (List Char)
  | depth, '/' :: '*' :: rest => afterBlockComment (depth + 1) rest
  | depth, '*' :: '/' :: rest => if depth ≤ 1 then some rest else afterBlockComment (depth - 1) rest
  | depth, _ :: rest => afterBlockComment depth rest
  | _, [] => none

/-- Split a text at the end of its first line: before the line break, of which a carriage return
in front belongs to neither part. -/
def splitLine : List Char → List Char × List Char
  | [] => ([], [])
  | '\n' :: rest => ([], '\n' :: rest)
  | '\r' :: '\n' :: rest => ([], '\n' :: rest)
  | c :: rest => let (line, rest) := splitLine rest; (c :: line, rest)

/-- Whether a line comment documents what follows, given the text after its two slashes. -/
def isLineDoc : List Char → Bool
  | '/' :: '/' :: _ => false
  | '/' :: _ => true
  | '!' :: _ => true
  | _ => false

/-- Whether a block comment documents what follows, given the text after its opening. -/
def isBlockDoc : List Char → Bool
  | '*' :: '*' :: _ => false
  | '*' :: '/' :: _ => false
  | '*' :: _ => true
  | '!' :: _ => true
  | _ => false

/-- Drop blanks and plain comments. A block comment that does not end is left standing. -/
def skipTrivia : Nat → List Char → List Char
  | 0, source => source
  | fuel + 1, source =>
    match source with
    | '/' :: '/' :: rest =>
      if isLineDoc rest then source else skipTrivia fuel (splitLine rest).2
    | '/' :: '*' :: rest =>
      if isBlockDoc rest then source
      else match afterBlockComment 1 rest with
        | some rest => skipTrivia fuel rest
        | none => source
    | c :: rest => if isBlank c then skipTrivia fuel rest else source
    | [] => []

/-- Whether every carriage return of a text is followed by a line feed. -/
def hasNoBareReturn : List Char → Bool
  | [] => true
  | '\r' :: '\n' :: rest => hasNoBareReturn rest
  | '\r' :: _ => false
  | _ :: rest => hasNoBareReturn rest

/-- The lexemes of the attribute that a documentation comment stands for. An inner comment has a
`!` after the `#`. -/
def ofDoc (inner : Bool) (comment : List Char) : List Lexeme :=
  [punct '#' false] ++ (if inner then [punct '!' false] else []) ++
    [opening .bracket, word "doc", punct '=' false,
     literal (Literal.quoteText (String.ofList comment)), closing .bracket]

/-- A documentation comment at the start of a text, and the text after it. -/
def scanDoc : List Char → Option (List Lexeme × List Char)
  | '/' :: '/' :: mark :: rest =>
    if isLineDoc (mark :: rest) then
      let (comment, rest) := splitLine rest
      if hasNoBareReturn comment then some (ofDoc (mark == '!') comment, rest) else none
    else none
  | '/' :: '*' :: mark :: rest =>
    if isBlockDoc (mark :: rest) then
      match afterBlockComment 1 (mark :: rest) with
      | some after =>
        let comment := (Literal.textBetween rest after).dropLast.dropLast
        if hasNoBareReturn comment then some (ofDoc (mark == '!') comment, after) else none
      | none => none
    else none
  | _ => none

/-! ### Words, lifetimes and punctuation -/

/-- A word at the start of a text, and the text after it. -/
def scanPlainWord : List Char → Option (List Char × List Char)
  | c :: rest =>
    if isIdentifierStart c then
      some (c :: rest.takeWhile isIdentifierContinue, rest.dropWhile isIdentifierContinue)
    else none
  | [] => none

/-- The words that have no raw form. -/
def unrawable : List String := ["_", "super", "self", "Self", "crate"]

/-- A plain or raw word at the start of a text, and the text after it. -/
def scanWord : List Char → Option (String × List Char)
  | 'r' :: '#' :: rest =>
    match scanPlainWord rest with
    | some (name, rest) =>
      if unrawable.contains (String.ofList name) then none
      else some ("r#" ++ String.ofList name, rest)
    | none => none
  | source =>
    match scanPlainWord source with
    | some (name, rest) => some (String.ofList name, rest)
    | none => none

/-- The openings of quoted literals, which no word may have. -/
def literalOpenings : List (List Char) :=
  ["r\"", "r#\"", "r##", "b\"", "b\x27", "br\"", "br#", "c\"", "cr\"", "cr#"].map String.toList

/-- A lifetime at the start of a text: an apostrophe and a word that no apostrophe closes. -/
def scanLifetime : List Char → Option (Lexeme × List Char)
  | '\x27' :: source =>
    match scanWord source with
    | some (name, rest) =>
      match rest with
      | '\x27' :: _ => none
      | '#' :: _ => if name.startsWith "r#" then some (lifetime name, rest) else none
      | _ => some (lifetime name, rest)
    | none => none
  | _ => none

/-- The bracket that a character is. -/
def bracket? : Char → Option Lexeme
  | '(' => some (opening .parenthesis)
  | '[' => some (opening .bracket)
  | '{' => some (opening .brace)
  | ')' => some (closing .parenthesis)
  | ']' => some (closing .bracket)
  | '}' => some (closing .brace)
  | _ => none

/-- A token at the start of a text, and the text after it. -/
def scanToken (source : List Char) : Option (Lexeme × List Char) :=
  match Literal.read source with
  | some (_, rest) => some (literal (String.ofList (Literal.textBetween source rest)), rest)
  | none =>
    match source with
    | [] => none
    | c :: rest =>
      match bracket? c with
      | some lexeme => some (lexeme, rest)
      | none =>
        if c = '\x27' then scanLifetime source
        else if startsWithPunctuation source then some (punct c (startsWithPunctuation rest), rest)
        else if literalOpenings.any (·.isPrefixOf source) then none
        else (scanWord source).map fun (text, rest) => (word text, rest)

/-- The lexemes of a text: at most `fuel` of them. -/
def cutAtMost : Nat → List Char → Option (List Lexeme)
  | 0, _ => none
  | fuel + 1, source =>
    match skipTrivia source.length source with
    | [] => some []
    | source =>
      match scanDoc source with
      | some (lexemes, rest) => (cutAtMost fuel rest).map (lexemes ++ ·)
      | none =>
        match scanToken source with
        | some (lexeme, rest) => (cutAtMost fuel rest).map (lexeme :: ·)
        | none => none

/-- The lexemes of a text. A text has no more lexemes than characters. -/
def cut (source : List Char) : Option (List Lexeme) := cutAtMost (source.length + 1) source

end Lexeme

namespace TokenStream

/-- Nest lexemes by their brackets. `current` holds the tokens of the innermost group, the last
one first, and `outer` the groups around it. -/
def nest : List (Delimiter × TokenStream) → TokenStream → List Lexeme → Option TokenStream
  | [], current, [] => some current.reverse
  | _ :: _, _, [] => none
  | outer, current, .opening delimiter :: rest => nest ((delimiter, current) :: outer) [] rest
  | [], _, .closing _ :: _ => none
  | (delimiter, before) :: outer, current, .closing delimiter' :: rest =>
    if delimiter = delimiter' then nest outer (.group delimiter current.reverse :: before) rest
    else none
  | outer, current, .word text :: rest => nest outer (.word text :: current) rest
  | outer, current, .lifetime name :: rest => nest outer (.lifetime name :: current) rest
  | outer, current, .literal text :: rest => nest outer (.literal text :: current) rest
  | outer, current, .punct char joint :: rest => nest outer (.punct char joint :: current) rest

/-- Drop the mark that may open a text to show the order of its bytes. -/
def dropByteOrderMark : List Char → List Char
  | '\ufeff' :: rest => rest
  | source => source

/-- The token trees of a text, or nothing if it cannot be cut or its brackets do not match. -/
def ofText? (source : String) : Option TokenStream :=
  (Lexeme.cut (dropByteOrderMark source.toList)).bind (nest [] [])

end TokenStream

end KeyedCoding
