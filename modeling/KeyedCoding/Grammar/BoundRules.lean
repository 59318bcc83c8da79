import KeyedCoding.Grammar.PathRules

/-!
# Rules for bounds, arguments and parameters

A bound is a trait, a lifetime or a list of captured parameters; where it stands decides which of
these it may be.

## Main definitions

* `Rules.BoundPlace`: where bounds stand.
* `Rules.binder`: the parameters that a type or a bound introduces.
* `Rules.bound`, `Rules.bounds`: a bound, and bounds of which one is a trait.
* `Rules.genericArgRule`, `Rules.genericParamRule`: arguments and parameters in angle brackets.
-/

namespace KeyedCoding.Rules

open KeyedCoding.Parser

variable (rules : Rules)

/-! ### Bounds -/

/-- Where bounds stand, which decides what may stand among them. -/
inductive BoundPlace where
  /-- The bounds of a trait object: traits and lifetimes. -/
  | object
  /-- The bounds of a type that is known by them alone: also captured parameters, and traits for
  use at compile time. -/
  | unnamed
  /-- The bounds of a parameter: also traits for use at compile time. -/
  | parameter
  deriving DecidableEq

namespace BoundPlace

/-- Whether captured parameters may stand among the bounds. -/
def allowsCapture (place : BoundPlace) : Bool := place == unnamed

/-- Whether traits for use at compile time may stand among the bounds. -/
def allowsConst (place : BoundPlace) : Bool := place != object

end BoundPlace

/-- A bound, and what kind of bound it is. -/
structure Bound where
  tokens : TokenStream
  /-- Whether it is a trait. -/
  isTrait : Bool

/-- Parameters that a type or a bound introduces. -/
def binder : Parser TokenStream := takeIf (peekKeyword "for") do
  let first ← keyword "for"
  let opening ← symbol "<"
  let params ← separated (peekSymbol ">") "," do return (← rules.genericParam).tokens
  return first ++ opening ++ itemTokens "," params ++ (← symbol ">")

/-- The type that a function gives back. -/
def returnType (allowPlus : Bool) : Parser TokenStream := takeIf (peekSymbol "->") do
  return (← symbol "->") ++ (← rules.type allowPlus).tokens

/-- Marks of a trait for use at compile time, always or if its parameters are. -/
def constMark : Parser TokenStream := do
  if ← peekGroup .bracket then groupToken .bracket (keyword "const")
  else keyword? "const"

/-- Arguments of a trait that are written as those of a function. -/
def functionArgs : Parser TokenStream := do
  let _ ← symbol? "::"
  let args ← groupToken .parenthesis (commaList do return (← rules.type true).tokens)
  return args ++ (← rules.returnType false)

/-- A trait as a bound, and whether it is marked for use at compile time. Nothing is introduced
for a trait that is only perhaps required. -/
def traitBound (place : BoundPlace) : Parser (TokenStream × Bool) := do
  let before ← rules.binder
  let mark ← constMark
  check (mark.isEmpty || place.allowsConst)
  let modifier ← symbol? "?"
  check (before.isEmpty || modifier.isEmpty)
  check (modifier.isEmpty || !(← peekKeyword "for"))
  let path ← rules.path .inType
  let bare := path.segments.getLast?.any Segment.isPlain
  let separatedArgs := (← peekSymbol "::") && (← peekGroup .parenthesis 2)
  let args ← takeIf (return bare && ((← peekGroup .parenthesis) || separatedArgs))
    rules.functionArgs
  return (modifier ++ before ++ path.tokens ++ args, !mark.isEmpty)

/-- The parameters that a type captures, lifetimes first. -/
def capturedParams : Parser TokenStream := do
  let first ← keyword "use"
  let opening ← symbol "<"
  let params ← separated (peekSymbol ">") "," do
    if ← peekLifetime then return (⟨true, ← lifetimeToken, false⟩ : PlacedArg)
    let name ← wordWhere fun word => word == "Self" || Word.isIdent word
    return ⟨false, [.word name], false⟩
  let closing ← symbol ">"
  return first ++ opening ++ PlacedArg.arrangeItems params ++ closing

/-- A bound. A trait for use at compile time stays as it is written. -/
def bound (place : BoundPlace) : Parser Bound := do
  if ← peekLifetime then return ⟨← lifetimeToken, false⟩
  if ← peekKeyword "use" then
    check place.allowsCapture
    return ⟨← capturedParams, false⟩
  let source ← get
  let (tokens, isConst) ←
    if ← peekGroup .parenthesis then
      let (tokens, isConst) ← group .parenthesis (rules.traitBound place)
      pure ([TokenStream.parens tokens], isConst)
    else rules.traitBound place
  if isConst then return ⟨source.take (source.length - (← get).length), true⟩
  return ⟨tokens, true⟩

/-- Whether a bound follows. -/
def peekBound (place : BoundPlace) : Parser Bool := do
  let marked := place.allowsConst && (← peekGroup .bracket)
  return (← peekAnyWord) || (← peekSymbol "::") || (← peekSymbol "?") || (← peekLifetime) ||
    (← peekGroup .parenthesis) || marked

/-- The bounds after a first one, each with the `+` before it, at most `fuel` of them, and whether
one of them is a trait. If `mayTrail`, the last `+` need not be followed by a bound. -/
def moreBounds (place : BoundPlace) (mayTrail : Bool) : Nat → Parser Bound
  | 0 => return ⟨[], false⟩
  | fuel + 1 => do
    if !(← peekSymbol "+") then return ⟨[], false⟩
    let plus ← symbol "+"
    if mayTrail && !(← peekBound place) then return ⟨plus, false⟩
    let next ← rules.bound place
    let rest ← moreBounds place mayTrail fuel
    return ⟨plus ++ next.tokens ++ rest.tokens, next.isTrait || rest.isTrait⟩

/-- Bounds, of which one must be a trait. -/
def bounds (place : BoundPlace) (allowPlus : Bool) : Parser TokenStream := do
  let first ← rules.bound place
  let rest ← if allowPlus then rules.moreBounds place true (← get).length else pure ⟨[], false⟩
  check (first.isTrait || rest.isTrait)
  return first.tokens ++ rest.tokens

/-- Bounds of a parameter after a colon, up to a sign. -/
def boundsAfterColon (stop : Parser Bool) : Parser TokenStream := takeIf (peekSymbol ":") do
  let colon ← symbol ":"
  return colon ++ itemTokens "+" (← separated stop "+" (return (← rules.bound .parameter).tokens))

/-- Lifetimes that a lifetime outlives, after a colon, up to a sign. -/
def outlivedAfterColon (stop : Parser Bool) : Parser TokenStream := takeIf (peekSymbol ":") do
  let colon ← symbol ":"
  return colon ++ itemTokens "+" (← separated stop "+" lifetimeToken)

/-! ### Arguments and parameters -/

/-- A literal, a name or a block as the value of a constant parameter. -/
def constArg : Parser TokenStream := do
  if ← peekLiteral then return (← literal).tokens
  if ← peekIdent then identToken else rules.attributedBlock

/-- An argument in angle brackets. -/
def genericArgRule : Parser GenericArg := do
  if (← peekLifetime) && !(← peekSymbol "+" 1) then return .lifetime (← lifetime)
  if (← peekLiteral) || (← peekGroup .brace) then return .const (← rules.constArg)
  let ty ← rules.type true
  match ty with
  | .path false [segment] =>
    if ← peekSymbol "=" then
      let equals ← symbol "="
      let value ← if (← peekLiteral) || (← peekGroup .brace) then rules.constArg
        else (return (← rules.type true).tokens)
      return .binding (segment.tokens ++ equals ++ value)
    if ← peekSymbol ":" then
      let bounds ← rules.boundsAfterColon (peekSymbolOf [",", ">"])
      return .binding (segment.tokens ++ bounds)
    return .type ty
  | _ => return .type ty

/-- A parameter in angle brackets. -/
def genericParamRule : Parser PlacedArg := do
  let attributes ← rules.outerAttributes
  if ← peekLifetime then
    let name ← lifetimeToken
    return ⟨true, attributes ++ name ++ (← outlivedAfterColon (peekSymbolOf [",", ">"])), false⟩
  if ← peekKeyword "const" then
    let name ← inOrder [keyword "const", identToken, symbol ":"]
    let ty ← rules.type true
    let value ← takeIf (peekSymbol "=") do return (← symbol "=") ++ (← rules.constArg)
    return ⟨false, attributes ++ name ++ ty.tokens ++ value, false⟩
  let name ← identToken
  let bounds ← rules.boundsAfterColon (peekSymbolOf [",", ">", "="])
  let value ← takeIf (peekSymbol "=") do return (← symbol "=") ++ (← rules.type true).tokens
  return ⟨false, attributes ++ name ++ bounds ++ value, false⟩

end KeyedCoding.Rules
