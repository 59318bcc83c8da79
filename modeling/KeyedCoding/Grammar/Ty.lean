import KeyedCoding.Grammar.Word

/-!
# Types and paths

Of a type only the shapes that carry meaning here are kept apart: parentheses, invisible groups
and paths with their arguments. Every other type is kept as its tokens.

## Main definitions

* `Ty`, `Path`, `Segment`, `GenericArg`: types and the parts of a path.
* `Ty.tokens`, `Path.tokens`: their tokens.
-/

namespace KeyedCoding

mutual

/-- A type. -/
inductive Ty where
  /-- A type in an invisible group. -/
  | group (inner : Ty)
  /-- A type in parentheses. -/
  | paren (inner : Ty)
  /-- A path; `leading` if it starts with `::`. -/
  | path (leading : Bool) (segments : List Segment)
  /-- A path below a type and possibly a trait, whose tokens are `subject`. -/
  | qualified (subject : TokenStream) (segments : List Segment)
  /-- A trait that introduces parameters. -/
  | bound (tokens : TokenStream)
  /-- Any other type. -/
  | other (tokens : TokenStream)

/-- A segment of a path. -/
inductive Segment where
  | plain (name : String)
  /-- A segment with arguments; `turbofish` if `::` stands before them, `trailing` if a comma
  stands after the last one. -/
  | applied (name : String) (turbofish : Bool) (args : List GenericArg) (trailing : Bool)

/-- An argument in angle brackets. -/
inductive GenericArg where
  | lifetime (name : String)
  | type (ty : Ty)
  /-- A literal or a block. -/
  | const (tokens : TokenStream)
  /-- An associated type or constant with its value or its bounds. -/
  | binding (tokens : TokenStream)

end

namespace GenericArg

/-- Whether an argument is a lifetime. -/
def isLifetime : GenericArg → Bool
  | lifetime _ => true
  | _ => false

end GenericArg

namespace Segment

/-- The identifier of a segment. -/
def name : Segment → String
  | plain name => name
  | applied name _ _ _ => name

/-- Whether a segment has no arguments. -/
def isPlain : Segment → Bool
  | plain _ => true
  | applied .. => false

end Segment

/-- The tokens of an argument, with what is needed to place it among the others. -/
structure PlacedArg where
  isLifetime : Bool
  tokens : TokenStream
  /-- Whether a comma follows it. -/
  comma : Bool

namespace PlacedArg

/-- Write arguments one after the other, given whether the last one before them needs a comma to
part it from the next. -/
def join : Bool → List PlacedArg → TokenStream
  | _, [] => []
  | needsComma, arg :: rest =>
    (if needsComma then TokenStream.symbol "," else []) ++ arg.tokens ++
      (if arg.comma then TokenStream.symbol "," else []) ++ join (!arg.comma) rest

/-- Write arguments with the lifetimes in front of all others. -/
def arrange (args : List PlacedArg) : TokenStream :=
  let (lifetimes, others) := args.partition (·.isLifetime)
  let commas := lifetimes.flatMap fun arg =>
    arg.tokens ++ if arg.comma then TokenStream.symbol "," else []
  let open? := (lifetimes.getLast?.map fun arg => !arg.comma).getD false
  commas ++ join open? others

/-- Write the items of a list with the lifetimes in front of all others. -/
def arrangeItems (items : List (PlacedArg × Bool)) : TokenStream :=
  arrange (items.map fun (arg, comma) => { arg with comma })

end PlacedArg

mutual

/-- The tokens of a type. -/
def Ty.tokens : Ty → TokenStream
  | .group inner => [.group .invisible (Ty.tokens inner)]
  | .paren inner => [TokenStream.parens (Ty.tokens inner)]
  | .path leading segments =>
    (if leading then TokenStream.symbol "::" else []) ++ Segment.pathTokens segments
  | .qualified subject segments =>
    subject ++ TokenStream.symbol "::" ++ Segment.pathTokens segments
  | .bound tokens => tokens
  | .other tokens => tokens

/-- The tokens of a segment. -/
def Segment.tokens : Segment → TokenStream
  | .plain name => [.word name]
  | .applied name turbofish args trailing =>
    [.word name] ++ (if turbofish then TokenStream.symbol "::" else []) ++
      TokenStream.symbol "<" ++ PlacedArg.arrange (GenericArg.placed trailing args) ++
      TokenStream.symbol ">"

/-- The tokens of segments with `::` between them. -/
def Segment.pathTokens : List Segment → TokenStream
  | [] => []
  | [segment] => segment.tokens
  | segment :: rest => segment.tokens ++ TokenStream.symbol "::" ++ Segment.pathTokens rest

/-- The tokens of an argument. -/
def GenericArg.tokens : GenericArg → TokenStream
  | .lifetime name => [.lifetime name]
  | .type ty => Ty.tokens ty
  | .const tokens => tokens
  | .binding tokens => tokens

/-- The tokens of arguments, each with a comma after it except perhaps the last. -/
def GenericArg.placed (trailing : Bool) : List GenericArg → List PlacedArg
  | [] => []
  | [arg] => [⟨arg.isLifetime, arg.tokens, trailing⟩]
  | arg :: rest => ⟨arg.isLifetime, arg.tokens, true⟩ :: GenericArg.placed trailing rest

end

namespace Ty

/-- Whether a type is a path without arguments. -/
def isPlainPath : Ty → Bool
  | path _ segments => segments.all Segment.isPlain
  | _ => false

end Ty

/-- A path that names an item, such as the place of a runtime library. -/
structure Path where
  leading : Bool
  segments : List Segment

namespace Path

/-- The tokens of a path. -/
def tokens (path : Path) : TokenStream := (Ty.path path.leading path.segments).tokens

/-- Whether no segment has arguments. -/
def isPlain (path : Path) : Bool := path.segments.all Segment.isPlain

/-- Characters without the colons in front of them and behind them. -/
def trimColons (chars : List Char) : List Char :=
  ((chars.dropWhile (· == ':')).reverse.dropWhile (· == ':')).reverse

/-- The text of a path: its tokens without the blanks between them, and without a leading `::`. -/
def text (path : Path) : String :=
  String.ofList (trimColons ((TokenStream.text path.tokens).toList.filter (· != ' ')))

end Path

end KeyedCoding
