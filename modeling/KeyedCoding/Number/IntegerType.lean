/-!
# Types of whole numbers

## Main definitions

* `IntegerType`: the whole numbers of a number of bits.
* `IntegerType.holds`: whether a number is one of a type.
-/

namespace KeyedCoding

/-- Whole numbers of a number of bits. -/
structure IntegerType where
  signed : Bool
  bits : Nat
  deriving DecidableEq, Repr

namespace IntegerType

/-- The name of a type of whole numbers. -/
def name (type : IntegerType) : String := (if type.signed then "i" else "u") ++ Nat.repr type.bits

/-- The least number of a type. -/
def least (type : IntegerType) : Int :=
  if type.signed then -(Nat.pow 2 (type.bits - 1) : Int) else 0

/-- The greatest number of a type. -/
def greatest (type : IntegerType) : Int :=
  (Nat.pow 2 (if type.signed then type.bits - 1 else type.bits) : Int) - 1

/-- Whether a type holds a number. -/
def holds (type : IntegerType) (value : Int) : Bool :=
  type.least ≤ value && value ≤ type.greatest

/-- The bytes. -/
def byte : IntegerType := ⟨false, 8⟩

end IntegerType

end KeyedCoding
