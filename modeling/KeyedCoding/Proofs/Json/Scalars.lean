import KeyedCoding.Json.Reader
import KeyedCoding.Json.Writer
import KeyedCoding.Proofs.Token.StringLiterals

/-!
# Whole numbers and strings in JSON text

A whole number of 64 bits is read back from its digits, and a string from what stands for its
characters between quotes. Nothing is known of the text after them, except that it does not go on
with the number.

## Main definitions

* `Json.EndsNumber`: a text does not go on with a number.

## Main results

* `Json.readNumber_false_toDigits`, `Json.readNumber_true_toDigits`: numbers are read back.
* `Json.readChars_quotedChar`: what stands for a character is read back.
* `Json.readString_quoted`: strings are read back.
-/

namespace KeyedCoding.Json

/-! ### Whole numbers -/

/-- A text does not go on with a number: with another digit, a fraction or an exponent. -/
def EndsNumber (rest : List Char) : Prop :=
  ∀ c ∈ rest.head?, c.isDigit = false ∧ c ≠ '.' ∧ c ≠ 'e' ∧ c ≠ 'E'

theorem endsNumber_nil : EndsNumber [] := nofun

theorem endsNumber_cons {c : Char} (h : c.isDigit = false ∧ c ≠ '.' ∧ c ≠ 'e' ∧ c ≠ 'E')
    (rest : List Char) : EndsNumber (c :: rest) := by
  rintro d hd
  obtain rfl := Option.some.inj hd
  exact h

section Numbers

variable {number : Nat} {digits rest : List Char}

theorem areDigits_toDigits (number : Nat) : ∀ c ∈ Nat.toDigits 10 number, c.isDigit = true :=
  fun _ h => Nat.isDigit_of_mem_toDigits (by decide) (by decide) h

/-- The digits of a number start with a digit. -/
theorem exists_toDigits_eq_cons (number : Nat) :
    ∃ c digits, Nat.toDigits 10 number = c :: digits ∧ c.isDigit = true := by
  obtain ⟨c, digits, he⟩ := List.exists_cons_of_ne_nil
    (Nat.toDigits_ne_nil : Nat.toDigits 10 number ≠ [])
  exact ⟨c, digits, he, areDigits_toDigits number c (he ▸ List.mem_cons_self)⟩

theorem digitValue_digitChar {digit : Nat} (h : digit < 10) :
    digitValue digit.digitChar = digit := by
  rw [digitValue, Nat.toNat_digitChar_of_lt_ten h]
  exact Nat.add_sub_cancel_left 48 digit

/-- The digits of a number that fits 64 bits are read as this number. -/
theorem leadingDigits_toDigits_append (fits : number ≤ maxUnsigned) (rest : List Char) :
    leadingDigits 0 (Nat.toDigits 10 number ++ rest) = leadingDigits number rest := by
  -- the last digit is that of the remainder, and the others are those of the quotient
  induction number using Nat.strongRecOn generalizing rest with
  | ind number ih =>
    rw [Nat.toDigits_eq_if (by decide)]
    by_cases small : number < 10
    · rw [if_pos small, List.singleton_append, leadingDigits, digitValue_digitChar small,
        Nat.zero_mul, Nat.zero_add]
      exact if_pos fits
    · have below : number / 10 < number := by omega
      rw [if_neg small, List.append_assoc, ih _ below (by omega), List.singleton_append,
        leadingDigits, digitValue_digitChar (Nat.mod_lt _ (by decide)), Nat.div_add_mod']
      exact if_pos fits

theorem leadingDigits_toDigits (fits : number ≤ maxUnsigned) :
    leadingDigits 0 (Nat.toDigits 10 number) = (number, 0) := by
  simpa [leadingDigits] using leadingDigits_toDigits_append fits []

/-- Only zero starts with the digit zero. -/
theorem exists_toDigits_eq_cons_of_pos (positive : 0 < number) :
    ∃ c digits, Nat.toDigits 10 number = c :: digits ∧ c ≠ '0' := by
  induction number using Nat.strongRecOn with
  | ind number ih =>
    rw [Nat.toDigits_eq_if (by decide)]
    by_cases small : number < 10
    · have first : ∀ digit < 10, 0 < digit → Nat.digitChar digit ≠ '0' := by decide
      rw [if_pos small]
      exact ⟨_, [], rfl, first number small positive⟩
    · obtain ⟨c, digits, he, first⟩ := ih (number / 10) (by omega) (by omega)
      rw [if_neg small, he]
      exact ⟨c, _, rfl, first⟩

theorem takeDigits_append (areDigits : ∀ c ∈ digits, c.isDigit = true) (ne : digits ≠ [])
    (ends : ∀ c ∈ rest.head?, c.isDigit = false) :
    takeDigits (digits ++ rest) = some (digits, rest) := by
  have none_left : rest.takeWhile Char.isDigit = [] ∧ rest.dropWhile Char.isDigit = rest := by
    cases rest with
    | nil => exact ⟨rfl, rfl⟩
    | cons c rest => simp [ends c rfl]
  rw [takeDigits, List.takeWhile_append_of_pos areDigits, List.dropWhile_append_of_pos areDigits,
    none_left.1, none_left.2, List.append_nil]
  cases digits with
  | nil => exact absurd rfl ne
  | cons c digits => rfl

/-- The digits of a number are its whole digits. -/
theorem takeWhole_toDigits (ends : EndsNumber rest) :
    takeWhole (Nat.toDigits 10 number ++ rest) = some (Nat.toDigits 10 number, rest) := by
  have noDigit : ∀ c ∈ rest.head?, c.isDigit = false := fun c hc => (ends c hc).1
  rcases Nat.eq_zero_or_pos number with rfl | positive
  · rw [Nat.toDigits_zero, List.singleton_append]
    cases rest with
    | nil => rfl
    | cons c rest => simp [takeWhole, noDigit c rfl]
  · have areDigits := areDigits_toDigits number
    obtain ⟨c, digits, he, first⟩ := exists_toDigits_eq_cons_of_pos positive
    rw [he] at areDigits ⊢
    have taken := takeDigits_append areDigits (List.cons_ne_nil _ _) noDigit
    rw [List.cons_append] at taken ⊢
    rw [takeWhole, taken]
    exact fun _ same => first (List.cons.inj same).1

/-- Digits that no fraction and no exponent follow are a whole number. -/
theorem readNumber_toDigits (negative : Bool) (ends : EndsNumber rest) :
    readNumber negative (Nat.toDigits 10 number ++ rest) =
      (wholeNumber negative (Nat.toDigits 10 number)).map fun value => (value, rest) := by
  have noFraction : takeFraction rest = some ([], rest) := by
    cases rest with
    | nil => rfl
    | cons c rest => simp [takeFraction, (ends c rfl).2.1]
  have noExponent : takeExponent rest = some (none, rest) := by
    cases rest with
    | nil => rfl
    | cons c rest => simp [takeExponent, (ends c rfl).2.2]
  rw [readNumber, takeWhole_toDigits ends]
  simp only [noFraction, noExponent]
  rfl

/-- **A number without a sign is read back.** -/
theorem readNumber_false_toDigits (fits : number ≤ maxUnsigned) (ends : EndsNumber rest) :
    readNumber false (Nat.toDigits 10 number ++ rest) = some (integer number, rest) := by
  rw [readNumber_toDigits false ends, wholeNumber, leadingDigits_toDigits fits]
  rfl

/-- **A number after a minus sign is read back.** -/
theorem readNumber_true_toDigits (positive : 0 < number) (fits : number ≤ 0x8000000000000000)
    (ends : EndsNumber rest) :
    readNumber true (Nat.toDigits 10 number ++ rest) = some (integer (-number), rest) := by
  have unsigned : number ≤ maxUnsigned := fits.trans (by decide)
  rw [readNumber_toDigits true ends, wholeNumber, leadingDigits_toDigits unsigned]
  simp [positive, fits]

end Numbers

/-! ### Strings -/

section Strings

variable {c : Char} {rest : List Char}

/-- The escape of a control below the space is read back. -/
theorem readEscape_control (control : c.toNat < 0x20) (rest : List Char) :
    readEscape ('u' :: controlDigits c.toNat ++ rest) = some (c, rest) := by
  have high : c.toNat / 16 < 16 := by omega
  have low : c.toNat % 16 < 16 := by omega
  have code : hexCode '0' '0' (c.toNat / 16).digitChar (c.toNat % 16).digitChar =
      some c.toNat := by
    have zero : Text.hexDigit? '0' = some 0 := rfl
    simp only [hexCode, zero, Text.hexDigit?_digitChar high, Text.hexDigit?_digitChar low]
    exact congrArg some (by omega)
  have noLow : isLowHalf c.toNat = false := by simp [isLowHalf]; omega
  have noHigh : isHighHalf c.toNat = false := by simp [isHighHalf]; omega
  simp [controlDigits, readEscape, code, noLow, noHigh]

/-- What stands for a character is read as this character, whatever follows. -/
theorem readChars_quotedChar (c : Char) (fuel : Nat) (rest : List Char) :
    readChars (fuel + 1) (quotedChar c ++ rest) =
      (readChars fuel rest).map fun (chars, rest) => (c :: chars, rest) := by
  unfold quotedChar
  split
  · next quote => subst quote; rfl
  split
  · next backslash => subst backslash; rfl
  split
  · next lineFeed => subst lineFeed; rfl
  split
  · next tab => subst tab; rfl
  split
  · next carriageReturn => subst carriageReturn; rfl
  split
  · next backspace => subst backspace; rfl
  split
  · next formFeed => subst formFeed; rfl
  split
  · next control =>
    have escape := readEscape_control control rest
    simp only [List.cons_append] at escape ⊢
    rw [readChars, escape]
  · next plain => simp [readChars, plain]

theorem length_pos_quotedChar (c : Char) : 0 < (quotedChar c).length := by
  rw [List.length_pos_iff]
  intro none
  -- without characters, nothing would be read
  have read := readChars_quotedChar c 1 ['"']
  rw [none] at read
  exact nomatch read

theorem readChars_quoted (chars rest : List Char) {fuel : Nat} (enough : chars.length < fuel) :
    readChars fuel (chars.flatMap quotedChar ++ '"' :: rest) = some (chars, rest) := by
  induction chars generalizing fuel with
  | nil =>
    obtain ⟨fuel, rfl⟩ := Nat.exists_eq_add_of_lt enough
    rfl
  | cons c chars ih =>
    obtain ⟨fuel, rfl⟩ := Nat.exists_eq_add_of_lt enough
    rw [List.flatMap_cons, List.append_assoc, readChars_quotedChar, ih (by simp; omega)]
    rfl

theorem length_le_length_flatMap_quotedChar (chars : List Char) :
    chars.length ≤ (chars.flatMap quotedChar).length := by
  induction chars with
  | nil => exact Nat.le_refl 0
  | cons c chars ih =>
    have := length_pos_quotedChar c
    rw [List.flatMap_cons, List.length_append, List.length_cons]
    omega

theorem quoted_append (value : String) (rest : List Char) :
    quoted value ++ rest = '"' :: (value.toList.flatMap quotedChar ++ '"' :: rest) := by
  simp [quoted]

/-- **A string is read back**, whatever follows its closing quote. -/
theorem readString_quoted (value : String) (rest : List Char) :
    readString (value.toList.flatMap quotedChar ++ '"' :: rest) = some (value, rest) := by
  have enough : value.toList.length <
      (value.toList.flatMap quotedChar ++ '"' :: rest).length := by
    have := length_le_length_flatMap_quotedChar value.toList
    rw [List.length_append, List.length_cons]
    omega
  rw [readString, readChars_quoted value.toList rest enough]
  simp

end Strings

end KeyedCoding.Json
