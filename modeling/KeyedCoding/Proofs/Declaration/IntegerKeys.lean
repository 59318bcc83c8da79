import KeyedCoding.Proofs.Declaration.MarkerSpellings
import KeyedCoding.Proofs.Generated.IrrelevantParts
import KeyedCoding.Proofs.Token.IntegerLiterals

/-!
# Whole numbers as keys

The argument of a marker that gives a key may be a whole number, in any base and with a minus sign
or without. The key is the sign as it is written and then the number in decimal. The mark of the
base, zeros in front, underscores and a suffix are left out of it, so that two numbers with the same
sign are the same key if and only if they are the same number.

## Main definitions

* `IntegerSpelling.tokens`: the tokens of a whole number with its sign.
* `IntegerSpelling.key`: the key that a whole number is.
* `Member.TakesKey`: a literal is the argument that gives the key of a field.

## Main results

* `Literal.isWritten_integer_iff`: which tokens are literals that denote whole numbers.
* `Field.exists_overrideKey_of_takesKey`: the key of a field is the text of such an argument.
* `integer_keys`: the key is the number, and nothing else of its spelling.
-/

namespace KeyedCoding

/-! ### Whole numbers with a sign -/

namespace IntegerSpelling

variable (spelling other : IntegerSpelling) (negative joint : Bool)

/-- The tokens of a whole number; a minus sign is a token of its own. -/
def tokens : TokenStream :=
  (if negative then [.punct '-' joint] else []) ++ [.literal spelling.text]

/-- The key that a whole number is: its sign, and the number in decimal. -/
def key : String := (if negative then "-" else "") ++ Nat.repr spelling.magnitude

theorem text_literal : (spelling.literal negative).text = spelling.key negative := rfl

/-- With the same sign, keys are the same if and only if the numbers are: the number is what the
digits in decimal denote. -/
theorem key_eq_iff : spelling.key negative = other.key negative ↔
    spelling.magnitude = other.magnitude := by
  rw [key, key, String.append_right_inj]
  refine ⟨fun h => ?_, congrArg Nat.repr⟩
  have digits : Nat.toDigits 10 spelling.magnitude = Nat.toDigits 10 other.magnitude := by
    simpa [Nat.repr_eq_ofList_toDigits, String.ofList_inj] using h
  simpa using congrArg (Nat.ofDigitChars 10 · 0) digits

theorem isWritten_literal :
    (spelling.literal negative).IsWritten (spelling.tokens negative joint) := by
  have spelt : Literal.ofSpelling? spelling.text = some (spelling.literal false) :=
    (Literal.ofSpelling?_eq_integer_iff.mpr ⟨spelling, rfl, rfl⟩).1
  cases negative with
  | false => exact .token spelt
  | true => exact .negative joint spelt rfl

end IntegerSpelling

/-- Exactly the tokens of whole numbers are literals that denote them. -/
theorem Literal.isWritten_integer_iff {literal : Literal} {tokens : TokenStream} :
    (literal.IsWritten tokens ∧ ∃ number, literal.value = .integer number) ↔
      ∃ (spelling : IntegerSpelling) (negative joint : Bool),
        tokens = spelling.tokens negative joint ∧ literal = spelling.literal negative := by
  constructor
  · rintro ⟨written, integer⟩
    cases written with
    | token spelt =>
      obtain ⟨spelling, rfl, rfl⟩ := ofSpelling?_eq_integer_iff.mp ⟨spelt, integer⟩
      exact ⟨spelling, false, false, rfl, rfl⟩
    | boolean holds =>
      obtain ⟨number, integer⟩ := integer
      exact nomatch integer
    | negative joint spelt _ =>
      obtain ⟨spelling, rfl, rfl⟩ := ofSpelling?_eq_integer_iff.mp ⟨spelt, integer⟩
      exact ⟨spelling, true, joint, rfl, rfl⟩
  · rintro ⟨spelling, negative, joint, rfl, rfl⟩
    exact ⟨spelling.isWritten_literal negative joint, _, rfl⟩

/-! ### The argument that gives a key -/

/-- A literal gives the key of a field: it is the only argument of the first marker that is usable
for a key. -/
structure Member.TakesKey (keyMarker : String) (member : Member) (literal : Literal) : Prop where
  isField : member.isField = true
  isFirst : ∃ before after, member.markers = before ++ ⟨keyMarker, [literal]⟩ :: after ∧
    ∀ marker ∈ before, ¬ marker.IsUsable keyMarker

namespace Field

variable {keyMarker : String} {member : Member} {literal : Literal}

theorem keyOfMarkers_of_takesKey (h : member.TakesKey keyMarker literal) :
    keyOfMarkers keyMarker member.markers = some literal.text := by
  obtain ⟨before, after, markers, unusable⟩ := h.isFirst
  rw [markers, keyOfMarkers_append_of_unusable unusable, keyOfMarkers, List.filter_cons,
    if_pos (beq_self_eq_true keyMarker), List.findSome?_cons]
  rfl

/-- The key of a field is the text of the argument that gives it. -/
theorem exists_overrideKey_of_takesKey (h : member.TakesKey keyMarker literal) :
    ∃ field, ofMember? keyMarker member = some field ∧
      field.overrideKey = some literal.text := by
  obtain ⟨field, hf⟩ := Option.isSome_iff_exists.mp (isSome_ofMember?.trans h.isField)
  obtain ⟨ty, -, -, rfl⟩ := ofMember?_eq_some_iff.mp hf
  exact ⟨_, hf, keyOfMarkers_of_takesKey h⟩

theorem exists_overrideKey_of_integer {spelling : IntegerSpelling} {negative : Bool}
    (h : member.TakesKey keyMarker (spelling.literal negative)) :
    ∃ field, ofMember? keyMarker member = some field ∧
      field.overrideKey = some (spelling.key negative) := by
  rw [← spelling.text_literal]
  exact exists_overrideKey_of_takesKey h

end Field

/-- **A whole number as a key is its value.** The literals that denote whole numbers are those that
are written as a sign, if any, and a number in any base. Such an argument gives a field the key of
the sign and the number in decimal, and two fields whose arguments have the same sign have the same
key if and only if the numbers are the same. -/
theorem integer_keys (keyMarker : String) :
    (∀ literal tokens,
      (Literal.IsWritten literal tokens ∧ ∃ number, literal.value = .integer number) ↔
        ∃ (spelling : IntegerSpelling) (negative joint : Bool),
          tokens = spelling.tokens negative joint ∧ literal = spelling.literal negative) ∧
    (∀ (member : Member) (spelling : IntegerSpelling) (negative : Bool),
      member.TakesKey keyMarker (spelling.literal negative) →
        ∃ field, Field.ofMember? keyMarker member = some field ∧
          field.overrideKey =
            some ((if negative then "-" else "") ++ Nat.repr spelling.magnitude)) ∧
    ∀ (member other : Member) (spelling spelling' : IntegerSpelling) (negative : Bool),
      member.TakesKey keyMarker (spelling.literal negative) →
      other.TakesKey keyMarker (spelling'.literal negative) →
        ((Field.ofMember? keyMarker member).map Field.overrideKey =
            (Field.ofMember? keyMarker other).map Field.overrideKey ↔
          spelling.magnitude = spelling'.magnitude) := by
  refine ⟨fun _ _ => Literal.isWritten_integer_iff,
    fun _ _ _ takes => Field.exists_overrideKey_of_integer takes,
    fun member other spelling spelling' negative takes takes' => ?_⟩
  obtain ⟨field, hf, key⟩ := Field.exists_overrideKey_of_integer takes
  obtain ⟨field', hf', key'⟩ := Field.exists_overrideKey_of_integer takes'
  rw [hf, hf', Option.map_some, Option.map_some, key, key', Option.some_inj, Option.some_inj]
  exact spelling.key_eq_iff spelling' negative

namespace IntegerSpelling

/-- The number 255 with two digits and zeros in front of them, in hexadecimal. -/
def hexadecimal255 : IntegerSpelling where
  radix := .hexadecimal
  digits := ['_', '0', '0', '_', 'F', 'f', '_']
  suffix := ['u', '8']
  areDigits := List.forall_iff_forall_mem.mp (by decide)
  hasDigit := ⟨'F', by decide, by decide⟩
  startsWithDigit := nofun
  unmarked := nofun
  hasSuffix := by decide
  endsDigits := by rintro c ⟨⟩; decide
  noExponent := nofun

/-- The number 255 in decimal, with a suffix that is a digit of other bases. -/
def decimal255 : IntegerSpelling where
  radix := .decimal
  digits := ['2', '5', '5']
  suffix := ['e', '_']
  areDigits := List.forall_iff_forall_mem.mp (by decide)
  hasDigit := ⟨'2', by decide, by decide⟩
  startsWithDigit := by decide
  unmarked _ radix marked := by cases radix <;> first | decide | exact absurd rfl marked
  hasSuffix := by decide
  endsDigits := by rintro c ⟨⟩; decide
  noExponent := by decide

end IntegerSpelling

/-- A member with the standard marker of keys and a literal as its argument. -/
def Member.numbered (literal : Literal) : Member :=
  ⟨.storedProperty, ⟨false, "number", by decide⟩, some (.named "u8"), none,
    [⟨"codable_key", []⟩, ⟨"codable_key", [literal]⟩]⟩

theorem Member.takesKey_numbered (literal : Literal) :
    (Member.numbered literal).TakesKey "codable_key" literal := by
  refine ⟨rfl, [⟨"codable_key", []⟩], [], rfl, ?_⟩
  decide

/-- Two spellings of `-255` are literals, and the keys that they give are the same. -/
theorem integer_keys_minus255 :
    Literal.IsWritten (IntegerSpelling.hexadecimal255.literal true)
        [.punct '-' false, .literal "0x_00_Ff_u8"] ∧
      (∃ field, Field.ofMember? "codable_key"
          (.numbered (IntegerSpelling.hexadecimal255.literal true)) = some field ∧
        field.overrideKey = some "-255") ∧
      (Field.ofMember? "codable_key"
          (.numbered (IntegerSpelling.hexadecimal255.literal true))).map Field.overrideKey =
        (Field.ofMember? "codable_key"
          (.numbered (IntegerSpelling.decimal255.literal true))).map Field.overrideKey := by
  obtain ⟨written, key, same⟩ := integer_keys "codable_key"
  refine ⟨((written _ _).mpr ⟨.hexadecimal255, true, false, rfl, rfl⟩).1, ?_, ?_⟩
  · obtain ⟨field, hf, he⟩ := key _ IntegerSpelling.hexadecimal255 true (Member.takesKey_numbered _)
    exact ⟨field, hf, he.trans (by decide)⟩
  · exact (same _ _ .hexadecimal255 .decimal255 true (Member.takesKey_numbered _)
      (Member.takesKey_numbered _)).mpr (by decide)

end KeyedCoding
