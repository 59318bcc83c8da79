import KeyedCoding.Coding.Mismatch
import KeyedCoding.Coding.ValueType
import KeyedCoding.Json.Reader

/-!
# Keys that spell bytes

The keys of an object are texts. A map whose keys are bytes is written with the decimal digits of
its keys, and a key is read back as a JSON number that fills it.

## Main definitions

* `NumericKey.toByte?`: the byte that a key spells.
-/

namespace KeyedCoding

namespace NumericKey

/-- Skip digits from an offset of a key. -/
def skipDigits (source : List Char) (offset : Nat) : Nat :=
  offset + ((source.drop offset).takeWhile Char.isDigit).length

/-- The fault of a key that breaks off or goes wrong where a digit is needed. -/
def digitFault (source : List Char) (offset : Nat) : NumericKeyFault :=
  if source.length ≤ offset then .unfinished offset else .malformed (offset + 1)

/-- The end of the number that a key starts with. -/
def numberEnd (source : List Char) : Except NumericKeyFault Nat :=
  let start := if source.head? == some '-' then 1 else 0
  let whole := skipDigits source start
  if whole = start then .error (digitFault source start)
  else if source[start]? == some '0' && start + 1 < whole then .error (.malformed (start + 2))
  else
    let fraction := if source[whole]? == some '.' then skipDigits source (whole + 1) else whole
    if source[whole]? == some '.' && fraction == whole + 1 then
      .error (digitFault source (whole + 1))
    else if source[fraction]? == some 'e' || source[fraction]? == some 'E' then
      let sign := source[fraction + 1]? == some '+' || source[fraction + 1]? == some '-'
      let digits := if sign then fraction + 2 else fraction + 1
      let finish := skipDigits source digits
      if finish = digits then .error (digitFault source digits) else .ok finish
    else .ok fraction

/-- The byte that a key spells. -/
def toByte? (key : String) : Except Mismatch Nat :=
  let source := key.toList
  match source.head? with
  | none => .error (.wrongKey .notANumber)
  | some first =>
    if first != '-' && !first.isDigit then .error (.wrongKey .notANumber)
    else match numberEnd source with
      | .error fault => .error (.wrongKey fault)
      | .ok finish =>
        match Json.ofChars? (source.take finish) with
        | some (.integer value) =>
          if !IntegerType.byte.holds value then
            .error (.misfitKey (.wrongValue (.integer value) IntegerType.byte.name) finish)
          else if finish < source.length then .error (.wrongKey .notANumber)
          else .ok value.toNat
        | some value =>
          .error (.misfitKey (.wrongType value IntegerType.byte.name) finish)
        | none => .error (.wrongKey (.outOfRange finish))

end NumericKey

end KeyedCoding
