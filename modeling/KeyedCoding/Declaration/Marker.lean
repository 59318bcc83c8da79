import KeyedCoding.Grammar.Attribute

/-!
# Markers

A marker says something about a member by a name and literal arguments. Most markers are written
as attributes.

## Main definitions

* `Marker`: a marker.
* `Marker.ofAttribute`: the marker that an attribute stands for.
* `Marker.singleArgText`: the text of the only argument of a marker.
-/

namespace KeyedCoding

/-- A name with literal arguments. -/
structure Marker where
  name : String
  args : List Literal
  deriving DecidableEq, Repr

/-- Why an attribute is no marker. -/
inductive MarkerError where
  /-- An item of its list is no literal. -/
  | expectedLiteral
  /-- A literal of its list is not followed by a comma. -/
  | expectedComma
  /-- What is assigned is no literal. -/
  | onlyLiterals (name : String)
  deriving DecidableEq, Repr

namespace MarkerError

/-- How an error is told. -/
def message : MarkerError → String
  | expectedLiteral => "expected literal"
  | expectedComma => "expected `,`"
  | onlyLiterals name => s!"marker '{name}' only accepts literal arguments"

end MarkerError

namespace Marker

/-- Literals with a comma between them, of which the last one may have one too, in at most `fuel`
steps. -/
def readArgsAtMost : Nat → TokenStream → Except MarkerError (List Literal)
  | 0, _ => .error .expectedLiteral
  | _ + 1, [] => .ok []
  | fuel + 1, tokens =>
    match StateT.run Parser.literal tokens with
    | none => .error .expectedLiteral
    | some (literal, []) => .ok [literal]
    | some (literal, .punct ',' _ :: rest) => (readArgsAtMost fuel rest).map (literal :: ·)
    | some _ => .error .expectedComma

/-- The literals of a list. -/
def readArgs (tokens : TokenStream) : Except MarkerError (List Literal) :=
  readArgsAtMost (tokens.length + 1) tokens

/-- The marker that an attribute stands for: its list has literals only, and so has an assignment.
The name is the path of the attribute without a leading `::`. -/
def ofAttribute : Attribute → Except MarkerError Marker
  | .path name => .ok ⟨name.text, []⟩
  | .list name _ content => (readArgs content).map fun args => ⟨name.text, args⟩
  | .assignment name (.literal value) => .ok ⟨name.text, [value]⟩
  | .assignment name (.compound ..) => .error (.onlyLiterals name.text)

/-- The text of the argument of a marker with exactly one. -/
def singleArgText (marker : Marker) : Option String :=
  match marker.args with
  | [arg] => some arg.text
  | _ => none

end Marker

end KeyedCoding
