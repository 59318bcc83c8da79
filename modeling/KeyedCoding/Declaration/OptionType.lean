import KeyedCoding.Grammar.Ty

/-!
# Optional types

The type of a field is optional if it is spelt as the standard wrapper of optional values: by its
name alone, or by its full path.

## Main definitions

* `Ty.optionInner`: the wrapped type of an optional type.
-/

namespace KeyedCoding

/-- Whether names make a path of the wrapper: its name, or its full path below one of the two
standard libraries. -/
def isOptionPath : List String → Bool
  | ["Option"] => true
  | [root, "option", "Option"] => root == "std" || root == "core"
  | _ => false

namespace Segment

/-- The type that is the only argument of a segment. -/
def onlyType? : Segment → Option Ty
  | applied _ _ [.type inner] _ => some inner
  | _ => none

end Segment

namespace Ty

/-- The wrapped type of an optional type, as it is written. Parentheses and invisible groups around
the wrapper have no meaning. -/
def optionInner : Ty → Option Ty
  | group inner => inner.optionInner
  | paren inner => inner.optionInner
  | path _ segments =>
    if isOptionPath (segments.map Segment.name) then segments.getLast?.bind Segment.onlyType?
    else none
  | _ => none

end Ty

end KeyedCoding
