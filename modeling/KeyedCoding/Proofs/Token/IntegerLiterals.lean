import KeyedCoding.Grammar.Literal
import KeyedCoding.Proofs.Token.Marks
import Mathlib.Data.Nat.Digits.Defs
import Mathlib.Tactic.Ring

/-!
# The spellings of whole numbers

A whole number is written in one of four bases, of which all but the decimal one are marked in front
of the digits. Underscores may stand among the digits, and a word may follow them. Such a text is
read as a literal that denotes the number, however many digits it has, and no other text is read as
a whole number.

## Main definitions

* `Radix`: the bases.
* `IntegerSpelling`: a text that is a whole number, by its parts.
* `IntegerSpelling.magnitude`: the number that it denotes.

## Main results

* `Literal.readDigits_append`: the digits in front of a text are read as their number.
* `Literal.exists_of_readDigits`: what is read as a number are digits.
* `Literal.ofSpelling?_eq_integer_iff`: which texts are read as whole numbers.
-/

namespace KeyedCoding

open Text

/-! ### Digits -/

/-- Whether a character is a digit of a base. -/
def isDigitOf (base : Nat) (c : Char) : Bool := (hexDigit? c).any (· < base)

/-- The digits among some characters, the first one first. -/
def digitsOf (chars : List Char) : List Nat := chars.filterMap hexDigit?

/-- The number that digits of a base denote, with the underscores among them left out. -/
def numberOf (base : Nat) (chars : List Char) : Nat := Nat.ofDigits base (digitsOf chars).reverse

section Digits

variable {base : Nat} {c : Char}

theorem isDigitOf_eq_true_iff :
    isDigitOf base c = true ↔ ∃ digit, hexDigit? c = some digit ∧ digit < base := by
  simp [isDigitOf, Option.any_eq_true]

theorem hexDigit?_underscore : hexDigit? '_' = none := by decide

theorem digitsOf_cons_of_some {digit : Nat} (h : hexDigit? c = some digit) (rest : List Char) :
    digitsOf (c :: rest) = digit :: digitsOf rest := by
  rw [digitsOf, List.filterMap_cons_some h]
  rfl

theorem digitsOf_underscore (rest : List Char) : digitsOf ('_' :: rest) = digitsOf rest := by
  rw [digitsOf, List.filterMap_cons_none hexDigit?_underscore]
  rfl

theorem numberOf_cons_of_some {digit : Nat} (h : hexDigit? c = some digit) (rest : List Char) :
    numberOf base (c :: rest) =
      digit * base ^ (digitsOf rest).length + numberOf base rest := by
  rw [numberOf, digitsOf_cons_of_some h, Nat.ofDigits_reverse_cons, Nat.mul_comm, Nat.add_comm]
  rfl

theorem numberOf_underscore (rest : List Char) :
    numberOf base ('_' :: rest) = numberOf base rest := by
  rw [numberOf, digitsOf_underscore]
  rfl

end Digits

namespace Literal

section ReadDigits

variable {base : Nat} {digits rest source : List Char}

/-- Digits after others are read as digits. -/
theorem readDigits_append (areDigits : ∀ c ∈ digits, isDigitOf base c = true ∨ c = '_')
    (value : Nat) (rest : List Char) :
    readDigits base (some value) (digits ++ rest) =
      readDigits base (some (value * base ^ (digitsOf digits).length + numberOf base digits))
        rest := by
  induction digits generalizing value with
  | nil => simp [digitsOf, numberOf]
  | cons c digits ih =>
    obtain ⟨first, others⟩ := List.forall_mem_cons.mp areDigits
    rw [List.cons_append, readDigits]
    rcases first with isDigit | rfl
    · obtain ⟨digit, hd, below⟩ := isDigitOf_eq_true_iff.mp isDigit
      have number : (value * base + digit) * base ^ (digitsOf digits).length +
          numberOf base digits = value * base ^ ((digitsOf digits).length + 1) +
            (digit * base ^ (digitsOf digits).length + numberOf base digits) := by ring
      rw [digitsOf_cons_of_some hd, numberOf_cons_of_some hd, List.length_cons, ← number]
      simp only [hd, if_pos below, Option.getD_some]
      exact ih others _
    · rw [digitsOf_underscore, numberOf_underscore]
      simp only [hexDigit?_underscore]
      exact ih others _

/-- The digits in front of a text are read as their number. A decimal number starts with a digit. -/
theorem readDigits_none_append (areDigits : ∀ c ∈ digits, isDigitOf base c = true ∨ c = '_')
    (hasDigit : ∃ c ∈ digits, isDigitOf base c = true)
    (first : base = 10 → digits.head? ≠ some '_') (rest : List Char) :
    readDigits base none (digits ++ rest) = readDigits base (some (numberOf base digits)) rest := by
  induction digits with
  | nil => simp at hasDigit
  | cons c digits ih =>
    obtain ⟨isFirst, others⟩ := List.forall_mem_cons.mp areDigits
    rw [List.cons_append, readDigits]
    rcases isFirst with isDigit | rfl
    · obtain ⟨digit, hd, below⟩ := isDigitOf_eq_true_iff.mp isDigit
      rw [numberOf_cons_of_some hd]
      simp only [hd, if_pos below, Option.getD_none, Nat.zero_mul, Nat.zero_add]
      exact readDigits_append others digit rest
    · have marked : base ≠ 10 := fun ten => first ten rfl
      have later : ∃ c ∈ digits, isDigitOf base c = true := by
        simpa [isDigitOf, hexDigit?_underscore] using hasDigit
      rw [numberOf_underscore]
      simp only [hexDigit?_underscore, Option.isNone_none, Bool.true_and, beq_iff_eq, marked]
      exact ih others later fun ten => absurd ten marked

/-- What does not go on with a digit ends the digits. -/
theorem readDigits_some_of_ends {value : Nat}
    (ends : ∀ c ∈ source.head?, isDigitOf base c = false ∧ c ≠ '_' ∧ c.isDigit = false) :
    readDigits base (some value) source = some (value, source) := by
  cases source with
  | nil => rfl
  | cons c rest =>
    obtain ⟨noDigit, noUnderscore, noDecimal⟩ := ends c rfl
    rw [readDigits]
    cases hd : hexDigit? c with
    | none => simp [noUnderscore]
    | some digit =>
      have beyond : ¬ digit < base := by simpa [isDigitOf, hd] using noDigit
      simp [beyond, noDecimal]

/-- A text is cut after the digits of a number, of which some may have been read before: all digits
are taken, and if none has been read before there is at least one. -/
structure CutsDigits (base : Nat) (before : Option Nat) (source digits rest : List Char)
    (number : Nat) : Prop where
  source_eq : source = digits ++ rest
  areDigits : ∀ c ∈ digits, isDigitOf base c = true ∨ c = '_'
  ends : ∀ c ∈ rest.head?, isDigitOf base c = false ∧ c ≠ '_'
  number_eq : number =
    before.getD 0 * base ^ (digitsOf digits).length + numberOf base digits
  hasDigit : before = none → ∃ c ∈ digits, isDigitOf base c = true
  startsWithDigit : before = none → base = 10 → digits.head? ≠ some '_'

theorem cutsDigits_of_ends {before : Option Nat} {number : Nat}
    (h : before.map (fun value => (value, source)) = some (number, rest))
    (ends : ∀ c ∈ source.head?, isDigitOf base c = false ∧ c ≠ '_') :
    CutsDigits base before source [] rest number := by
  obtain ⟨value, rfl, he⟩ := Option.map_eq_some_iff.mp h
  obtain ⟨rfl, rfl⟩ := Prod.mk.inj he
  exact ⟨rfl, by simp, ends, by simp [digitsOf, numberOf], by simp, by simp⟩

/-- **What is read as a number are digits**, with underscores among them. -/
theorem exists_of_readDigits {before : Option Nat} {number : Nat}
    (h : readDigits base before source = some (number, rest)) :
    ∃ digits, CutsDigits base before source digits rest number := by
  fun_induction readDigits base before source with
  | case1 before => exact ⟨[], cutsDigits_of_ends h (by simp)⟩
  | case2 before c source digit hd below ih =>
    obtain ⟨digits, cut⟩ := ih h
    have isDigit : isDigitOf base c = true := isDigitOf_eq_true_iff.mpr ⟨digit, hd, below⟩
    have noUnderscore : c ≠ '_' := by
      rintro rfl
      exact nomatch hexDigit?_underscore.symm.trans hd
    refine ⟨c :: digits, congrArg (c :: ·) cut.source_eq,
      List.forall_mem_cons.mpr ⟨.inl isDigit, cut.areDigits⟩, cut.ends, ?_,
      fun _ => ⟨c, List.mem_cons_self, isDigit⟩, fun _ _ => by simpa using noUnderscore⟩
    rw [cut.number_eq, digitsOf_cons_of_some hd, numberOf_cons_of_some hd, List.length_cons,
      Option.getD_some]
    ring
  | case3 => exact nomatch h
  | case4 before c source digit hd beyond _ =>
    refine ⟨[], cutsDigits_of_ends h fun d he => ?_⟩
    obtain rfl := Option.some.inj he
    refine ⟨by simp [isDigitOf, hd, beyond], ?_⟩
    rintro rfl
    exact nomatch hexDigit?_underscore.symm.trans hd
  | case5 => exact nomatch h
  | case6 before source marked _ ih =>
    obtain ⟨digits, cut⟩ := ih h
    refine ⟨'_' :: digits, congrArg ('_' :: ·) cut.source_eq,
      List.forall_mem_cons.mpr ⟨.inr rfl, cut.areDigits⟩, cut.ends, ?_, fun fresh => ?_,
      fun fresh ten => ?_⟩
    · rw [cut.number_eq, digitsOf_underscore, numberOf_underscore]
    · obtain ⟨c, hc, isDigit⟩ := cut.hasDigit fresh
      exact ⟨c, List.mem_cons_of_mem _ hc, isDigit⟩
    · simp [fresh, ten] at marked
  | case7 before c source hd other =>
    refine ⟨[], cutsDigits_of_ends h fun d he => ?_⟩
    obtain rfl := Option.some.inj he
    exact ⟨by simp [isDigitOf, hd], other⟩

end ReadDigits

end Literal

/-! ### Suffixes -/

/-- Whether a text may follow a number without a space: it is empty, or a word. -/
def isSuffix : List Char → Bool
  | [] => true
  | c :: rest => Word.isWord (c :: rest)

/-- Whether a suffix of decimal digits is an exponent, perhaps with a suffix of its own. -/
def isExponent : List Char → Bool
  | mark :: rest =>
    let power := rest.dropWhile (· == '_')
    (mark == 'e' || mark == 'E') && power.head?.any Char.isDigit &&
      isSuffix (power.dropWhile Literal.isDigitOrUnderscore)
  | [] => false

section Suffixes

variable {c : Char} {source suffix : List Char}

theorem isIdentifierContinue_of_isSuffix (h : isSuffix suffix = true) :
    ∀ c ∈ suffix, isIdentifierContinue c = true := by
  cases suffix with
  | nil => simp
  | cons c rest =>
    have word : Word.isWord (c :: rest) = true := h
    exact fun d => Word.isIdentifierContinue_of_mem word

theorem isIdentifierStart_of_isSuffix (h : isSuffix (c :: source) = true) :
    isIdentifierStart c = true :=
  (Word.isWord_cons.mp h).1

/-- What is left of characters that may continue a word is a suffix, or no number ends before it. -/
theorem skipNumberEnd_of_continued (continued : ∀ c ∈ source, isIdentifierContinue c = true) :
    Literal.skipNumberEnd source = if isSuffix source then some [] else none := by
  cases source with
  | nil => rfl
  | cons c rest =>
    obtain ⟨first, others⟩ := List.forall_mem_cons.mp continued
    have word : isSuffix (c :: rest) = isIdentifierStart c := by
      rw [isSuffix, Word.isWord, List.all_eq_true.mpr others, Bool.and_true]
    rw [word, Literal.skipNumberEnd, Literal.skipSuffix]
    by_cases start : isIdentifierStart c = true
    · rw [if_pos start, if_pos start, List.dropWhile_eq_nil_iff.mpr others]
      rfl
    · rw [if_neg start, if_neg start]
      exact if_pos first

/-- A number that ends a text has a suffix, if anything. -/
theorem isSuffix_of_skipNumberEnd (h : Literal.skipNumberEnd source = some []) :
    isSuffix source = true := by
  cases source with
  | nil => rfl
  | cons c rest =>
    rw [Literal.skipNumberEnd] at h
    split at h
    · exact nomatch h
    · have dropped := Option.some.inj h
      rw [Literal.skipSuffix] at dropped
      split at dropped
      · next start => exact Word.isWord_cons.mpr ⟨start, List.dropWhile_eq_nil_iff.mp dropped⟩
      · exact nomatch dropped

/-- Among characters that may continue a word an exponent has no sign. -/
theorem skipExponent_of_continued (continued : ∀ c ∈ source, isIdentifierContinue c = true) :
    Literal.skipExponent source =
      let power := source.dropWhile (· == '_')
      if power.head?.any Char.isDigit then some (power.dropWhile Literal.isDigitOrUnderscore)
      else none := by
  have mem : ∀ c ∈ source.dropWhile (· == '_'), isIdentifierContinue c = true :=
    fun c hc => continued c ((List.dropWhile_sublist _).subset hc)
  have stop := List.head?_dropWhile_not (· == '_') source
  rw [Literal.skipExponent]
  generalize source.dropWhile (· == '_') = power at mem stop ⊢
  cases power with
  | nil => rfl
  | cons c rest =>
    have unmarked := isMark_of_isIdentifierContinue (mem c List.mem_cons_self)
    have plus : c ≠ '+' := ne_of_not_isMark unmarked (by decide)
    have minus : c ≠ '-' := ne_of_not_isMark unmarked (by decide)
    have noUnderscore : (c == '_') = false := stop
    by_cases digit : c.isDigit = true
    · simp [plus, minus, Literal.isDigitOrUnderscore, digit]
    · simp [plus, minus, Literal.isDigitOrUnderscore, digit, noUnderscore]

end Suffixes

/-! ### Spellings -/

/-- The bases in which a whole number is written. -/
inductive Radix where
  | decimal
  | hexadecimal
  | octal
  | binary
  deriving DecidableEq, Repr

namespace Radix

/-- The number of digits of a base. -/
def base : Radix → Nat
  | decimal => 10
  | hexadecimal => 16
  | octal => 8
  | binary => 2

/-- What stands in front of the digits of a base. -/
def mark : Radix → List Char
  | decimal => []
  | hexadecimal => ['0', 'x']
  | octal => ['0', 'o']
  | binary => ['0', 'b']

/-- A text does not start with the mark of a base. -/
def Unmarked (source : List Char) : Prop := ∀ radix ≠ decimal, ¬ radix.mark <+: source

/-- Every text has a base, which is the decimal one for want of another. -/
theorem exists_mark (source : List Char) :
    ∃ (radix : Radix) (rest : List Char), source = radix.mark ++ rest ∧
      (radix = decimal → Unmarked rest) := by
  by_cases unmarked : Unmarked source
  · exact ⟨decimal, source, rfl, fun _ => unmarked⟩
  · simp only [Unmarked, not_forall, not_not] at unmarked
    obtain ⟨radix, other, rest, rfl⟩ := unmarked
    exact ⟨radix, rest, rfl, fun decimal => absurd decimal other⟩

theorem readWhole_mark (radix : Radix) {source : List Char}
    (unmarked : radix = decimal → Unmarked source) :
    Literal.readWhole (radix.mark ++ source) = Literal.readDigits radix.base none source := by
  cases radix with
  | hexadecimal => rfl
  | octal => rfl
  | binary => rfl
  | decimal =>
    have free := unmarked rfl
    rw [mark, List.nil_append, Literal.readWhole]
    · rfl
    · rintro rest rfl
      exact free .hexadecimal (by decide) ⟨rest, rfl⟩
    · rintro rest rfl
      exact free .octal (by decide) ⟨rest, rfl⟩
    · rintro rest rfl
      exact free .binary (by decide) ⟨rest, rfl⟩

end Radix

/-- A text that is a whole number, by its parts: the mark of a base, digits with underscores among
them, and perhaps a word as a suffix. -/
structure IntegerSpelling where
  radix : Radix
  digits : List Char
  suffix : List Char
  areDigits : ∀ c ∈ digits, isDigitOf radix.base c = true ∨ c = '_'
  hasDigit : ∃ c ∈ digits, isDigitOf radix.base c = true
  /-- Without a mark the first character is a digit. -/
  startsWithDigit : radix = .decimal → digits.head? ≠ some '_'
  /-- Without a mark the text does not look as if it had one. -/
  unmarked : radix = .decimal → Radix.Unmarked (digits ++ suffix)
  hasSuffix : isSuffix suffix = true
  /-- The suffix does not go on with digits. -/
  endsDigits : ∀ c ∈ suffix.head?, isDigitOf radix.base c = false ∧ c ≠ '_'
  /-- A number with an exponent is not a whole one. -/
  noExponent : radix = .decimal → isExponent suffix = false

namespace IntegerSpelling

/-- The characters of a whole number. -/
def chars (spelling : IntegerSpelling) : List Char :=
  spelling.radix.mark ++ (spelling.digits ++ spelling.suffix)

/-- The text of a whole number. -/
def text (spelling : IntegerSpelling) : String := String.ofList spelling.chars

/-- The number that a text denotes. -/
def magnitude (spelling : IntegerSpelling) : Nat := numberOf spelling.radix.base spelling.digits

end IntegerSpelling

namespace Literal

variable {c : Char} {digits suffix source rest : List Char}

theorem isDigit_of_isDigitOf_ten (h : isDigitOf 10 c = true) : c.isDigit = true := by
  obtain ⟨digit, hd, below⟩ := isDigitOf_eq_true_iff.mp h
  by_contra other
  exact absurd (ten_le_of_hexDigit? (Bool.eq_false_iff.mpr other) hd) (Nat.not_le.mpr below)

/-- No quoted literal starts with a digit. -/
theorem readQuotedLiteral_of_isDigit (h : c.isDigit = true) (rest : List Char) :
    readQuotedLiteral (c :: rest) = none := by
  unfold readQuotedLiteral
  split
  case h_9 => rfl
  all_goals
    next he =>
      obtain ⟨rfl, -⟩ := List.cons.inj he
      exact absurd h (by decide)

/-- No quoted literal denotes a number. -/
theorem readQuotedLiteral_ne_integer (source : List Char) (number : Nat) (rest : List Char) :
    readQuotedLiteral source ≠ some (.integer number, rest) := by
  intro h
  unfold readQuotedLiteral at h
  split at h
  all_goals simp [Option.map_eq_some_iff, readQuotedLiteral.ofText] at h

/-- Decimal digits are followed by a fraction only if an exponent follows them. -/
theorem skipFraction_append (isDigit : c.isDigit = true)
    (areDigits : ∀ d ∈ digits, isDigitOrUnderscore d = true) (fits : isSuffix suffix = true)
    (ends : ∀ d ∈ suffix.head?, d ≠ '_') :
    skipFraction (c :: (digits ++ suffix)) =
      match suffix with
      | mark :: rest => if mark = 'e' ∨ mark = 'E' then skipExponent rest else none
      | [] => none := by
  have left : (digits ++ suffix).dropWhile isDigitOrUnderscore = suffix := by
    rw [List.dropWhile_append_of_pos areDigits]
    cases suffix with
    | nil => rfl
    | cons mark rest =>
      have noDigit := isDigit_of_isIdentifierStart (isIdentifierStart_of_isSuffix fits)
      have noUnderscore := ends mark rfl
      simp [isDigitOrUnderscore, noDigit, noUnderscore]
  simp only [skipFraction, isDigit, left, Bool.not_true, Bool.false_eq_true, if_false]
  cases suffix with
  | nil => rfl
  | cons mark rest =>
    have point : mark ≠ '.' := by
      rintro rfl
      exact absurd (isIdentifierStart_of_isSuffix fits) (by decide)
    by_cases small : mark = 'e'
    · subst small
      rfl
    · by_cases capital : mark = 'E'
      · subst capital
        rfl
      · simp [point, small, capital]

/-- Decimal digits and a suffix are a number with a fraction only if the suffix is an exponent. -/
theorem readFraction_append_eq_none_iff (isDigit : c.isDigit = true)
    (areDigits : ∀ d ∈ digits, isDigitOrUnderscore d = true) (fits : isSuffix suffix = true)
    (ends : ∀ d ∈ suffix.head?, d ≠ '_') :
    readFraction (c :: (digits ++ suffix)) = none ↔ isExponent suffix = false := by
  rw [readFraction, skipFraction_append isDigit areDigits fits ends]
  cases suffix with
  | nil => simp [isExponent]
  | cons mark rest =>
    have continued : ∀ d ∈ rest, isIdentifierContinue d = true := fun d hd =>
      isIdentifierContinue_of_isSuffix fits d (List.mem_cons_of_mem _ hd)
    have after : ∀ d ∈ (rest.dropWhile (· == '_')).dropWhile isDigitOrUnderscore,
        isIdentifierContinue d = true := fun d hd =>
      continued d ((List.dropWhile_sublist _).subset ((List.dropWhile_sublist _).subset hd))
    by_cases isMark : mark = 'e' ∨ mark = 'E'
    · have marked : (mark == 'e' || mark == 'E') = true := by simpa using isMark
      simp only [if_pos isMark, skipExponent_of_continued continued, isExponent, marked,
        Bool.true_and]
      by_cases power : (rest.dropWhile (· == '_')).head?.any Char.isDigit = true
      · simp only [power, if_true, skipNumberEnd_of_continued after, Bool.true_and]
        split <;> simp_all
      · simp [power]
    · have unmarked : (mark == 'e' || mark == 'E') = false := by simpa using isMark
      simp [isMark, isExponent, unmarked]

theorem isDigitOrUnderscore_of_isDigitOf_ten (h : isDigitOf 10 c = true ∨ c = '_') :
    isDigitOrUnderscore c = true := by
  rcases h with isDigit | rfl
  · rw [isDigitOrUnderscore, isDigit_of_isDigitOf_ten isDigit, Bool.true_or]
  · rfl

/-- A decimal number starts with a digit. -/
theorem exists_eq_cons_of_decimal (areDigits : ∀ c ∈ digits, isDigitOf 10 c = true ∨ c = '_')
    (hasDigit : ∃ c ∈ digits, isDigitOf 10 c = true) (first : digits.head? ≠ some '_') :
    ∃ c rest, digits = c :: rest ∧ c.isDigit = true ∧
      ∀ d ∈ rest, isDigitOrUnderscore d = true := by
  obtain ⟨d, hd, -⟩ := hasDigit
  obtain ⟨c, rest, rfl⟩ := List.exists_cons_of_ne_nil (List.ne_nil_of_mem hd)
  obtain ⟨isFirst, others⟩ := List.forall_mem_cons.mp areDigits
  have isDigit : isDigitOf 10 c = true :=
    isFirst.resolve_right fun same => first (congrArg some same)
  exact ⟨c, rest, rfl, isDigit_of_isDigitOf_ten isDigit, fun d hd =>
    isDigitOrUnderscore_of_isDigitOf_ten (others d hd)⟩

/-- A whole number is what is neither quoted nor has a fraction. -/
theorem read_eq_integer_iff {number : Nat} : read source = some (.integer number, rest) ↔
    readQuotedLiteral source = none ∧ readFraction source = none ∧
      readInteger source = some (.integer number, rest) := by
  constructor
  · intro h
    cases hq : readQuotedLiteral source with
    | some result =>
      obtain ⟨value, after⟩ := result
      rw [read, hq] at h
      obtain rfl := (Prod.mk.inj (Option.some.inj h)).1
      exact absurd hq (readQuotedLiteral_ne_integer source number after)
    | none =>
      rw [read, hq] at h
      cases hf : readFraction source with
      | none => exact ⟨rfl, rfl, by simpa [hf] using h⟩
      | some result =>
        simp only [hf, Option.some_or] at h
        rw [readFraction] at hf
        split at hf
        · obtain ⟨after, -, he⟩ := Option.map_eq_some_iff.mp hf
          cases he.trans (Option.some.inj h)
        · cases hf
  · rintro ⟨unquoted, noFraction, whole⟩
    rw [read, unquoted, noFraction, whole]
    rfl

theorem readInteger_eq_some_iff {number : Nat} :
    readInteger source = some (.integer number, rest) ↔
      ∃ after, readWhole source = some (number, after) ∧ skipNumberEnd after = some rest := by
  rw [readInteger]
  cases readWhole source with
  | none => simp
  | some result =>
    obtain ⟨value, after⟩ := result
    simp only [Option.map_eq_some_iff, Prod.mk.injEq, Value.integer.injEq, Option.some.injEq]
    constructor
    · rintro ⟨_, ended, rfl, rfl⟩
      exact ⟨after, ⟨rfl, rfl⟩, ended⟩
    · rintro ⟨_, ⟨rfl, rfl⟩, ended⟩
      exact ⟨rest, ended, rfl, rfl⟩

/-- What is read as a whole number is one. -/
theorem exists_spelling_of_read {number : Nat} (h : read source = some (.integer number, [])) :
    ∃ spelling : IntegerSpelling, spelling.chars = source ∧ spelling.magnitude = number := by
  obtain ⟨-, noFraction, whole⟩ := read_eq_integer_iff.mp h
  obtain ⟨suffix, hw, ended⟩ := readInteger_eq_some_iff.mp whole
  obtain ⟨radix, body, rfl, unmarked⟩ := Radix.exists_mark source
  rw [Radix.readWhole_mark radix unmarked] at hw
  obtain ⟨digits, cut⟩ := exists_of_readDigits hw
  obtain rfl := cut.source_eq
  have fits := isSuffix_of_skipNumberEnd ended
  have first : radix = .decimal → digits.head? ≠ some '_' := fun decimal =>
    cut.startsWithDigit rfl (congrArg Radix.base decimal)
  have noExponent : radix = .decimal → isExponent suffix = false := by
    rintro rfl
    obtain ⟨c, rest, rfl, isDigit, others⟩ :=
      exists_eq_cons_of_decimal cut.areDigits (cut.hasDigit rfl) (first rfl)
    exact (readFraction_append_eq_none_iff isDigit others fits
      fun d hd => (cut.ends d hd).2).mp noFraction
  refine ⟨⟨radix, digits, suffix, cut.areDigits, cut.hasDigit rfl, first, unmarked, fits,
    cut.ends, noExponent⟩, rfl, ?_⟩
  have number_eq := cut.number_eq
  rw [Option.getD_none, Nat.zero_mul, Nat.zero_add] at number_eq
  exact number_eq.symm

end Literal

namespace IntegerSpelling

theorem readQuotedLiteral_chars (spelling : IntegerSpelling) :
    Literal.readQuotedLiteral spelling.chars = none := by
  obtain ⟨radix, digits, suffix, areDigits, hasDigit, first, -, -, -, -⟩ := spelling
  cases radix with
  | hexadecimal => rfl
  | octal => rfl
  | binary => rfl
  | decimal =>
    obtain ⟨c, rest, rfl, isDigit, -⟩ :=
      Literal.exists_eq_cons_of_decimal areDigits hasDigit (first rfl)
    exact Literal.readQuotedLiteral_of_isDigit isDigit _

theorem readFraction_chars (spelling : IntegerSpelling) :
    Literal.readFraction spelling.chars = none := by
  obtain ⟨radix, digits, suffix, areDigits, hasDigit, first, -, fits, ends, noExponent⟩ := spelling
  cases radix with
  | hexadecimal => rfl
  | octal => rfl
  | binary => rfl
  | decimal =>
    obtain ⟨c, rest, rfl, isDigit, others⟩ :=
      Literal.exists_eq_cons_of_decimal areDigits hasDigit (first rfl)
    exact (Literal.readFraction_append_eq_none_iff isDigit others fits
      fun d hd => (ends d hd).2).mpr (noExponent rfl)

theorem readWhole_chars (spelling : IntegerSpelling) :
    Literal.readWhole spelling.chars = some (spelling.magnitude, spelling.suffix) := by
  have first : spelling.radix.base = 10 → spelling.digits.head? ≠ some '_' := fun ten =>
    spelling.startsWithDigit (by cases hr : spelling.radix <;> simp_all [Radix.base])
  have ends : ∀ c ∈ spelling.suffix.head?,
      isDigitOf spelling.radix.base c = false ∧ c ≠ '_' ∧ c.isDigit = false := by
    intro c hc
    obtain ⟨rest, he⟩ := List.head?_eq_some_iff.mp hc
    have start := isIdentifierStart_of_isSuffix (he ▸ spelling.hasSuffix)
    obtain ⟨noDigit, noUnderscore⟩ := spelling.endsDigits c hc
    exact ⟨noDigit, noUnderscore, isDigit_of_isIdentifierStart start⟩
  rw [chars, Radix.readWhole_mark _ spelling.unmarked, Literal.readDigits_none_append
    spelling.areDigits spelling.hasDigit first, Literal.readDigits_some_of_ends ends]
  rfl

/-- A whole number is read as its number, with nothing left. -/
theorem read_chars (spelling : IntegerSpelling) :
    Literal.read spelling.chars = some (.integer spelling.magnitude, []) := by
  have ended : Literal.skipNumberEnd spelling.suffix = some [] := by
    rw [skipNumberEnd_of_continued (isIdentifierContinue_of_isSuffix spelling.hasSuffix),
      if_pos spelling.hasSuffix]
  exact Literal.read_eq_integer_iff.mpr ⟨spelling.readQuotedLiteral_chars,
    spelling.readFraction_chars,
    Literal.readInteger_eq_some_iff.mpr ⟨spelling.suffix, spelling.readWhole_chars, ended⟩⟩

/-- The literal of a whole number, with or without a minus sign. -/
def literal (spelling : IntegerSpelling) (negative : Bool) : Literal :=
  ⟨negative, spelling.text, .integer spelling.magnitude⟩

end IntegerSpelling

/-- **The texts of whole numbers.** A text is a literal that denotes a whole number if and only if
it is one by its parts, and it denotes the number of its digits in their base. -/
theorem Literal.ofSpelling?_eq_integer_iff {text : String} {literal : Literal} :
    (Literal.ofSpelling? text = some literal ∧ ∃ number, literal.value = .integer number) ↔
      ∃ spelling : IntegerSpelling, text = spelling.text ∧ literal = spelling.literal false := by
  constructor
  · rintro ⟨h, number, integer⟩
    rw [Literal.ofSpelling?] at h
    split at h
    · next value hr =>
      obtain rfl := Option.some.inj h
      change value = .integer number at integer
      rw [integer] at hr
      obtain ⟨spelling, hs, rfl⟩ := Literal.exists_spelling_of_read hr
      have same : text = spelling.text := by
        rw [IntegerSpelling.text, hs, String.ofList_toList]
      exact ⟨spelling, same, by rw [IntegerSpelling.literal, ← same, integer]⟩
    · exact nomatch h
  · rintro ⟨spelling, rfl, rfl⟩
    refine ⟨?_, _, rfl⟩
    rw [Literal.ofSpelling?, IntegerSpelling.text, String.toList_ofList, spelling.read_chars]
    rfl

end KeyedCoding
