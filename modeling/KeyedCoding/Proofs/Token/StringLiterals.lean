import KeyedCoding.Grammar.Literal
import Mathlib.Data.Nat.Digits.Defs

/-!
# Texts as string literals

The string literal that is written for a text is read back as this text. Every character has its own
spelling between the quotes, which may depend on the character after it, and such a spelling is read
as one character, whatever follows.

## Main definitions

* `Literal.Spells`: what is written for a character between quotes.

## Main results

* `Literal.readCodeDigits_toDigits`: the digits of a code point escape are read back.
* `Literal.spells_quotedChar`: the spelling of a character is read back.
* `Literal.readQuoted_quoteChars`: the spelling of a text is read back.
* `Literal.ofSpelling?_quoteText`: the string literal for a text denotes this text.
-/

namespace KeyedCoding

open Text

/-! ### Code point escapes -/

theorem Text.hexDigit?_digitChar {digit : Nat} (h : digit < 16) :
    hexDigit? digit.digitChar = some digit := by
  revert digit
  decide

namespace Literal

variable {c : Char} {piece rest : List Char}

theorem readCodeDigits_cons_digitChar {digit : Nat} (h : digit < 16) {count : Nat}
    (few : count < 6) (value : Nat) (rest : List Char) :
    readCodeDigits value count (digit.digitChar :: rest) =
      readCodeDigits (value * 16 + digit) (count + 1) rest := by
  rw [readCodeDigits, hexDigit?_digitChar h]
  exact if_pos few

/-- The digits of a number, after others, are read as digits, as long as there are at most six. -/
theorem readCodeDigits_toDigits_append (number : Nat) :
    ∀ (value count : Nat) (rest : List Char), count + (Nat.toDigits 16 number).length ≤ 6 →
      readCodeDigits value count (Nat.toDigits 16 number ++ rest) =
        readCodeDigits (value * 16 ^ (Nat.toDigits 16 number).length + number)
          (count + (Nat.toDigits 16 number).length) rest := by
  -- the last digit is that of the remainder, and the others are those of the quotient
  induction number using Nat.strongRecOn with
  | ind number ih =>
    intro value count rest few
    rw [Nat.toDigits_eq_if (by decide)] at few ⊢
    by_cases small : number < 16
    · rw [if_pos small] at few ⊢
      rw [List.length_singleton] at few ⊢
      rw [List.singleton_append, readCodeDigits_cons_digitChar small few, Nat.pow_one]
    · rw [if_neg small, List.length_append, List.length_singleton] at few
      rw [if_neg small, List.length_append, List.length_singleton]
      rw [List.append_assoc, ih (number / 16) (by omega) value count _ (by omega),
        List.singleton_append, readCodeDigits_cons_digitChar (Nat.mod_lt _ (by decide)) (by omega),
        Nat.pow_succ, Nat.add_mul, Nat.add_assoc, Nat.mul_assoc, Nat.div_add_mod' number 16,
        Nat.add_assoc]

/-- The digits of a code point escape are read back, with the brace after them. -/
theorem readCodeDigits_toDigits {number : Nat} (small : number < 16 ^ 6) (rest : List Char) :
    readCodeDigits 0 0 (Nat.toDigits 16 number ++ '}' :: rest) = some (number, rest) := by
  have few : (Nat.toDigits 16 number).length ≤ 6 :=
    (Nat.length_toDigits_le_iff (by decide) (by decide)).mpr small
  have some_digit : (Nat.toDigits 16 number).length ≠ 0 := Nat.length_toDigits_pos.ne'
  rw [readCodeDigits_toDigits_append number 0 0 _ (by omega), Nat.zero_mul, Nat.zero_add,
    Nat.zero_add, readCodeDigits]
  simp [hexDigit?, some_digit]

theorem charOfCode?_toNat (c : Char) : charOfCode? c.toNat = some c := by
  have valid : c.toNat.isValidChar := c.valid
  rw [charOfCode?, if_pos valid, Char.ofNat_toNat]

/-! ### Characters between quotes -/

/-- Between quotes, a text is read as one character, whatever follows. -/
def Spells (piece : List Char) (c : Char) : Prop :=
  ∀ fuel rest, readQuoted textRules (fuel + 1) (piece ++ rest) =
    consValue c (readQuoted textRules fuel rest)

theorem spells_codePointEscape (c : Char) : Spells (codePointEscape c) c := by
  intro fuel rest
  have small : c.toNat < 16 ^ 6 := by
    obtain h | ⟨-, h⟩ := c.valid
    · exact Nat.lt_trans h (by decide)
    · exact Nat.lt_trans h (by decide)
  have escape : readEscape textRules ('u' :: '{' :: (Nat.toDigits 16 c.toNat ++ '}' :: rest)) =
      some (c, rest) := by
    rw [readEscape, readCodeDigits_toDigits small]
    simp [charOfCode?_toNat, textRules]
  simp [codePointEscape, readQuoted, escape]

/-- A character stands for itself, besides the quote, the backslash and the carriage return. -/
theorem spells_self (quote : c ≠ '"') (backslash : c ≠ '\\') (carriageReturn : c ≠ '\r') :
    Spells [c] c := by
  intro fuel rest
  simp [readQuoted, backslash, carriageReturn, textRules]

/-- The spelling of a character between double quotes is read back. -/
theorem spells_quotedChar (c : Char) : Spells (quotedChar c) c := by
  unfold quotedChar
  split
  · next tab => subst tab; exact fun _ _ => rfl
  split
  · next carriageReturn => subst carriageReturn; exact fun _ _ => rfl
  split
  · next lineFeed => subst lineFeed; exact fun _ _ => rfl
  split
  · next backslash => subst backslash; exact fun _ _ => rfl
  split
  · next quote => subst quote; exact fun _ _ => rfl
  split
  · exact spells_codePointEscape c
  · next carriageReturn _ backslash quote _ => exact spells_self quote backslash carriageReturn

/-- What is written for a text starts with a spelling of its first character. -/
theorem exists_quoteChars_cons (c : Char) (source : List Char) :
    ∃ piece, Spells piece c ∧ quoteChars (c :: source) = piece ++ quoteChars source := by
  refine ⟨_, ?_, rfl⟩
  split
  · next null =>
    subst null
    -- both escapes end with their last digit, whatever digit comes next
    split
    · exact fun _ _ => rfl
    · exact fun _ _ => rfl
  · exact spells_quotedChar c

/-- What is written for a text between quotes is read back, up to the closing quote. -/
theorem readQuoted_quoteChars (source rest : List Char) {fuel : Nat}
    (enough : source.length < fuel) :
    readQuoted textRules fuel (quoteChars source ++ '"' :: rest) = some (source, rest) := by
  induction source generalizing fuel with
  | nil =>
    obtain ⟨fuel, rfl⟩ := Nat.exists_eq_add_of_lt enough
    rfl
  | cons c source ih =>
    obtain ⟨fuel, rfl⟩ := Nat.exists_eq_add_of_lt enough
    obtain ⟨piece, spells, hpiece⟩ := exists_quoteChars_cons c source
    rw [hpiece, List.append_assoc, spells, ih (by rw [List.length_cons]; omega)]
    rfl

/-! ### String literals -/

/-- No text without characters is read as one. -/
theorem Spells.length_pos (spells : Spells piece c) : 0 < piece.length := by
  rw [List.length_pos_iff]
  rintro rfl
  exact nomatch spells 0 ['"']

/-- A text is at most as long as what is written for it. -/
theorem length_le_length_quoteChars (source : List Char) :
    source.length ≤ (quoteChars source).length := by
  induction source with
  | nil => exact Nat.le_refl 0
  | cons c source ih =>
    obtain ⟨piece, spells, hpiece⟩ := exists_quoteChars_cons c source
    have := spells.length_pos
    rw [hpiece, List.length_append, List.length_cons]
    omega

/-- The string literal for a text is read as this text, with nothing left. -/
theorem read_quoteText (text : String) : read (quoteText text).toList = some (.text text, []) := by
  have enough : text.toList.length < (quoteChars text.toList ++ ['"']).length := by
    rw [List.length_append, List.length_singleton]
    exact Nat.lt_succ_of_le (length_le_length_quoteChars text.toList)
  rw [quoteText, String.toList_ofList, List.cons_append, read, readQuotedLiteral,
    readQuoted_quoteChars text.toList [] enough]
  simp [readQuotedLiteral.ofText, skipSuffix]

/-- **The string literal for a text denotes this text.** -/
theorem ofSpelling?_quoteText (text : String) :
    ofSpelling? (quoteText text) = some ⟨false, quoteText text, .text text⟩ := by
  rw [ofSpelling?, read_quoteText]

example : quoteText "\x007\x00\n" = "\"\\x007\\0\\n\"" := by decide

/-- Different texts have different string literals. -/
theorem quoteText_injective : Function.Injective quoteText := by
  intro text other h
  have same := read_quoteText text
  rw [h, read_quoteText other] at same
  exact (Value.text.inj (Prod.mk.inj (Option.some.inj same)).1).symm

end Literal

end KeyedCoding
