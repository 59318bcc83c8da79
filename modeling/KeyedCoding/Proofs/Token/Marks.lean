import KeyedCoding.Grammar.Word
import Mathlib.Data.List.TakeWhile

/-!
# Marks

Blanks, brackets, quotes and punctuation stand between words and never inside of one. No word is a
literal, for a literal starts with a digit or has a quote in it.

## Main definitions

* `Text.isMark`: the characters that stand between words.

## Main results

* `Text.isMark_of_isIdentifierContinue`: no character of a word is a mark.
* `Literal.read_of_isWord`: no word is a literal.
-/

namespace KeyedCoding

open Text

/-! ### Characters -/

namespace Text

/-- Punctuation, brackets, quotes and the byte order mark. -/
def markChars : List Char := Lexeme.punctuation ++ "\"()[]\x7b\x7d\ufeff".toList

/-- The code points of marks, to which blanks belong as well. -/
def markCodes : List Nat := blankCodes ++ markChars.map Char.toNat

/-- Whether a character stands between words and in none of them. -/
def isMark (c : Char) : Bool := markCodes.contains c.toNat

private theorem isMark_eq_false {test : Char → Bool}
    (marks : ∀ code ∈ markCodes, test (Char.ofNat code) = false) {c : Char} (h : test c = true) :
    isMark c = false := by
  rw [Bool.eq_false_iff]
  intro hm
  have hc := marks c.toNat (List.contains_iff_mem.mp hm)
  rw [Char.ofNat_toNat, h] at hc
  exact Bool.noConfusion hc

theorem isMark_of_isIdentifierContinue {c : Char} (h : isIdentifierContinue c = true) :
    isMark c = false :=
  isMark_eq_false (by decide +kernel) h

theorem isMark_of_isAlphanumeric {c : Char} (h : isAlphanumeric c = true) : isMark c = false :=
  isMark_eq_false (by decide +kernel) h

variable {c : Char}

theorem ne_of_not_isMark (h : isMark c = false) {mark : Char} (hm : isMark mark = true) :
    c ≠ mark := by
  rintro rfl
  rw [h] at hm
  exact Bool.noConfusion hm

theorem isBlank_of_not_isMark (h : isMark c = false) : isBlank c = false := by
  rw [Bool.eq_false_iff] at h ⊢
  intro hb
  exact h (List.contains_iff_mem.mpr (List.mem_append_left _ (List.contains_iff_mem.mp hb)))

theorem contains_punctuation_of_not_isMark (h : isMark c = false) :
    Lexeme.punctuation.contains c = false := by
  rw [Bool.eq_false_iff] at h ⊢
  intro hp
  have hm : c.toNat ∈ markChars.map Char.toNat :=
    List.mem_map_of_mem (List.mem_append_left _ (List.contains_iff_mem.mp hp))
  exact h (List.contains_iff_mem.mpr (List.mem_append_right _ hm))

/-- No identifier starts with a digit. -/
theorem isDigit_of_isIdentifierStart (h : isIdentifierStart c = true) : c.isDigit = false := by
  rw [Bool.eq_false_iff]
  intro hd
  simp only [Char.isDigit, Bool.and_eq_true, decide_eq_true_eq, UInt32.le_iff_toNat_le] at hd
  have hl : 48 ≤ c.toNat := hd.1
  have hu : c.toNat ≤ 57 := hd.2
  have digits : ∀ code < 10, isIdentifierStart (Char.ofNat (48 + code)) = false := by decide
  have hc := digits (c.toNat - 48) (by omega)
  rw [Nat.add_sub_cancel' hl, Char.ofNat_toNat, h] at hc
  exact nomatch hc

/-- A hexadecimal digit that is no decimal one is a letter. -/
theorem ten_le_of_hexDigit? (h : c.isDigit = false) {digit : Nat}
    (hd : hexDigit? c = some digit) : 10 ≤ digit := by
  unfold hexDigit? at hd
  split at hd
  · next hc =>
    have hdigit : c.isDigit = true := by
      simp only [Char.isDigit, Bool.and_eq_true, decide_eq_true_eq]
      exact hc
    rw [h] at hdigit
    exact nomatch hdigit
  · split at hd
    · next hc =>
      have hl : 97 ≤ c.toNat := hc.1
      have he := Option.some.inj hd
      omega
    · split at hd
      · next hc =>
        have hl : 65 ≤ c.toNat := hc.1
        have he := Option.some.inj hd
        omega
      · exact nomatch hd

end Text

/-! ### Words and literals -/

namespace Word

theorem isWord_cons {c : Char} {rest : List Char} : isWord (c :: rest) = true ↔
    isIdentifierStart c = true ∧ ∀ d ∈ rest, isIdentifierContinue d = true := by
  rw [isWord, Bool.and_eq_true, List.all_eq_true]

theorem isIdentifierContinue_of_mem {word : List Char} (h : isWord word = true) {d : Char}
    (hd : d ∈ word) : isIdentifierContinue d = true := by
  cases word with
  | nil => exact nomatch h
  | cons c rest =>
    obtain ⟨start, continued⟩ := isWord_cons.mp h
    rcases List.mem_cons.mp hd with rfl | hr
    · exact isIdentifierContinue_of_start start
    · exact continued d hr

theorem isMark_of_mem {word : List Char} (h : isWord word = true) {d : Char} (hd : d ∈ word) :
    isMark d = false :=
  isMark_of_isIdentifierContinue (isIdentifierContinue_of_mem h hd)

/-- A word with characters after it that may continue one is a word. -/
theorem isWord_append {start rest : List Char} (h : isWord start = true)
    (continued : ∀ d ∈ rest, isIdentifierContinue d = true) : isWord (start ++ rest) = true := by
  cases start with
  | nil => exact nomatch h
  | cons c start =>
    obtain ⟨hc, hs⟩ := isWord_cons.mp h
    refine isWord_cons.mpr ⟨hc, fun d hd => ?_⟩
    exact (List.mem_append.mp hd).elim (hs d) (continued d)

end Word

namespace Literal

variable {c : Char} {rest : List Char}

theorem readRaw_of_not_isMark {source : List Char} (marks : ∀ d ∈ source, isMark d = false)
    (plain : Char → Bool) : readRaw plain source = none := by
  unfold readRaw
  split
  · next rest he =>
    have hq : '"' ∈ source := (List.dropWhile_sublist _).subset (he ▸ List.mem_cons_self)
    exact absurd (marks '"' hq) (by decide)
  · rfl

theorem readQuotedLiteral_of_not_isMark {source : List Char}
    (marks : ∀ d ∈ source, isMark d = false) : readQuotedLiteral source = none := by
  have tail : ∀ {d : Char} {rest : List Char}, source = d :: rest →
      ∀ e ∈ rest, isMark e = false := fun he e hm => marks e (he ▸ List.mem_cons_of_mem _ hm)
  unfold readQuotedLiteral
  split
  · exact absurd (marks '"' List.mem_cons_self) (by decide)
  · rw [readRaw_of_not_isMark (tail rfl)]
    rfl
  · exact absurd (marks '"' (by simp)) (by decide)
  · rw [readRaw_of_not_isMark fun d hd => marks d (by simp [hd])]
    rfl
  · exact absurd (marks '"' (by simp)) (by decide)
  · rw [readRaw_of_not_isMark fun d hd => marks d (by simp [hd])]
    rfl
  · exact absurd (marks '\x27' (by simp)) (by decide)
  · exact absurd (marks '\x27' (by simp)) (by decide)
  · rfl

theorem readFraction_of_not_isDigit (h : c.isDigit = false) : readFraction (c :: rest) = none := by
  simp [readFraction, skipFraction, h]

theorem readInteger_of_not_isDigit (h : c.isDigit = false) : readInteger (c :: rest) = none := by
  have hz : c ≠ '0' := by
    rintro rfl
    exact absurd h (by decide)
  have hdigits : readDigits 10 none (c :: rest) = none := by
    unfold readDigits
    split
    · next digit hd => simp [h, Nat.not_lt.mpr (ten_le_of_hexDigit? h hd)]
    · simp
  simp [readInteger, readWhole, hz, hdigits]

theorem read_of_isWord {word : List Char} (h : Word.isWord word = true) : read word = none := by
  cases word with
  | nil => exact nomatch h
  | cons c rest =>
    have digit := isDigit_of_isIdentifierStart (Word.isWord_cons.mp h).1
    rw [read, readQuotedLiteral_of_not_isMark fun d => Word.isMark_of_mem h]
    simp [readFraction_of_not_isDigit digit, readInteger_of_not_isDigit digit]

end Literal

end KeyedCoding
