/-!
# Ranges of code points

A property of characters is given as a list of ranges in ascending order, and looked up by
walking the list until a range reaches the code point.

## Main definitions

* `CodeRange`: first and last code point of a range.
* `CodeRange.covers`: membership of a code point in an ascending list of ranges.
-/

namespace KeyedCoding.Text

/-- First and last code point of a range. -/
abbrev CodeRange := Nat × Nat

/-- Whether a code point lies in one of the ranges, which ascend. -/
def CodeRange.covers : List CodeRange → Nat → Bool
  | [], _ => false
  | (first, last) :: ranges, code =>
    if code < first then false
    else if code ≤ last then true
    else CodeRange.covers ranges code

end KeyedCoding.Text
