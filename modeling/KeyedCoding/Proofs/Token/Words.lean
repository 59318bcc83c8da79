import KeyedCoding.Proofs.Token.Marks

/-!
# Texts that are a single word

A text without marks is cut into words and literals, with nothing to skip between two of them. So a
word is its own only token, and a text whose only token is a word is that word.

## Main definitions

* `Lexeme.leaf?`: the token tree that a word or a literal is.

## Main results

* `TokenStream.ofText?_of_isWord`: a word is its own only token.
* `TokenStream.isWord_of_ofText?`: a text without marks whose only token is a word is a word.
-/

namespace KeyedCoding

open Text

/-! ### Cutting a text without marks -/

namespace Lexeme

variable {c : Char} {rest after : List Char} {lexeme : Lexeme} {lexemes : List Lexeme} {fuel : Nat}

theorem skipTrivia_of_not_isMark (h : isMark c = false) (fuel : Nat) :
    skipTrivia fuel (c :: rest) = c :: rest := by
  have hs : c ≠ '/' := ne_of_not_isMark h (by decide)
  cases fuel with
  | zero => rfl
  | succ fuel => simp [skipTrivia, hs, isBlank_of_not_isMark h]

theorem scanDoc_of_not_isMark (h : isMark c = false) : scanDoc (c :: rest) = none := by
  have hs : c ≠ '/' := ne_of_not_isMark h (by decide)
  simp [scanDoc, hs]

theorem bracket?_of_not_isMark (h : isMark c = false) : bracket? c = none := by
  unfold bracket?
  split
  all_goals first | rfl | exact absurd h (by decide)

theorem startsWithPunctuation_of_not_isMark (h : isMark c = false) :
    startsWithPunctuation (c :: rest) = false := by
  have hs : c ≠ '/' := ne_of_not_isMark h (by decide)
  have hp := contains_punctuation_of_not_isMark h
  unfold startsWithPunctuation
  split
  · next _ he => exact absurd (List.cons.inj he).1 hs
  · next _ he => exact absurd (List.cons.inj he).1 hs
  · next he => rw [← (List.cons.inj he).1, hp]
  · rfl

/-- Without a mark at its start a text has a literal or a word there. -/
theorem scanToken_of_not_isMark (h : isMark c = false) :
    scanToken (c :: rest) =
      match Literal.read (c :: rest) with
      | some (_, after) =>
        some (literal (String.ofList (Literal.textBetween (c :: rest) after)), after)
      | none =>
        if literalOpenings.any (·.isPrefixOf (c :: rest)) then none
        else (scanWord (c :: rest)).map fun (text, after) => (word text, after) := by
  have ha : c ≠ '\x27' := ne_of_not_isMark h (by decide)
  simp only [scanToken, bracket?_of_not_isMark h, startsWithPunctuation_of_not_isMark h, if_neg ha]
  rfl

theorem cutAtMost_succ_of_not_isMark (h : isMark c = false) (fuel : Nat) :
    cutAtMost (fuel + 1) (c :: rest) = (scanToken (c :: rest)).bind fun scanned =>
      (cutAtMost fuel scanned.2).map (scanned.1 :: ·) := by
  simp only [cutAtMost, skipTrivia_of_not_isMark h, scanDoc_of_not_isMark h]
  cases scanToken (c :: rest) <;> rfl

theorem scanPlainWord_of_isWord {word : List Char} (h : Word.isWord word = true) :
    scanPlainWord word = some (word, []) := by
  cases word with
  | nil => exact nomatch h
  | cons c rest =>
    obtain ⟨start, continued⟩ := Word.isWord_cons.mp h
    rw [scanPlainWord, if_pos start, List.takeWhile_eq_self_iff.mpr continued,
      List.dropWhile_eq_nil_iff.mpr continued]

/-- Every opening of a quoted literal has a mark in it. -/
theorem literalOpenings_of_isWord {word : List Char} (h : Word.isWord word = true) :
    literalOpenings.any (·.isPrefixOf word) = false := by
  rw [List.any_eq_false]
  intro opening ho hp
  have marked : ∀ opening ∈ literalOpenings, opening.any isMark = true := by decide
  obtain ⟨mark, hm, hmark⟩ := List.any_eq_true.mp (marked opening ho)
  rw [Word.isMark_of_mem h ((List.isPrefixOf_iff_prefix.mp hp).subset hm)] at hmark
  exact nomatch hmark

theorem scanPlainWord_cons {name : List Char} (h : scanPlainWord (c :: rest) = some (name, after)) :
    isIdentifierStart c = true ∧ rest.dropWhile isIdentifierContinue = after := by
  rw [scanPlainWord] at h
  split at h
  · next hc => exact ⟨hc, (Prod.mk.inj (Option.some.inj h)).2⟩
  · exact nomatch h

/-- Without marks a word is not raw. -/
theorem scanWord_of_not_isMark (marks : ∀ d ∈ rest, isMark d = false) :
    scanWord (c :: rest) =
      (scanPlainWord (c :: rest)).map fun (name, after) => (String.ofList name, after) := by
  unfold scanWord
  split
  · next _ he =>
    have hm := marks '#' ((List.cons.inj he).2 ▸ List.mem_cons_self)
    exact absurd hm (by decide)
  · cases scanPlainWord (c :: rest) <;> rfl

/-- The token tree that a word or a literal is. -/
def leaf? : Lexeme → Option TokenTree
  | word text => some (.word text)
  | literal text => some (.literal text)
  | _ => none

theorem leaf?_of_scanToken (h : isMark c = false)
    (scanned : scanToken (c :: rest) = some (lexeme, after)) :
    ∃ tree, lexeme.leaf? = some tree ∧
      ∀ text, tree = .word text → scanWord (c :: rest) = some (text, after) := by
  rw [scanToken_of_not_isMark h] at scanned
  split at scanned
  · simp only [Option.some.injEq, Prod.mk.injEq] at scanned
    obtain ⟨rfl, rfl⟩ := scanned
    exact ⟨_, rfl, fun text he => nomatch he⟩
  · split at scanned
    · exact nomatch scanned
    · obtain ⟨⟨text, after'⟩, hw, he⟩ := Option.map_eq_some_iff.mp scanned
      simp only [Prod.mk.injEq] at he
      obtain ⟨rfl, rfl⟩ := he
      refine ⟨.word text, rfl, fun text' he => ?_⟩
      rw [hw, TokenTree.word.inj he]

theorem exists_of_cutAtMost_cons (h : isMark c = false)
    (hc : cutAtMost fuel (c :: rest) = some lexemes) :
    ∃ lexeme tree after less others, lexemes = lexeme :: others ∧ lexeme.leaf? = some tree ∧
      cutAtMost less after = some others ∧
      ∀ text, tree = .word text → scanWord (c :: rest) = some (text, after) := by
  cases fuel with
  | zero => exact nomatch hc
  | succ less =>
    rw [cutAtMost_succ_of_not_isMark h] at hc
    obtain ⟨⟨lexeme, after⟩, hs, hc⟩ := Option.bind_eq_some_iff.mp hc
    obtain ⟨others, ho, rfl⟩ := Option.map_eq_some_iff.mp hc
    obtain ⟨tree, ht, hw⟩ := leaf?_of_scanToken h hs
    exact ⟨lexeme, tree, after, less, others, rfl, ht, ho, hw⟩

end Lexeme

namespace TokenStream

variable {outer : List (Delimiter × TokenStream)} {current trees : TokenStream}
  {lexeme : Lexeme} {lexemes : List Lexeme} {tree : TokenTree}

/-- The tokens outside of all open groups, the last one first. -/
def outermost : List (Delimiter × TokenStream) → TokenStream → TokenStream
  | [], current => current
  | (_, before) :: outer, _ => outermost outer before

private theorem outermost_isPrefix_cons :
    (outermost outer current).reverse <+: (outermost outer (tree :: current)).reverse := by
  cases outer with
  | nil => simp [outermost]
  | cons group outer => exact List.prefix_refl _

/-- What has been nested outside of all groups stays at the front. -/
theorem outermost_isPrefix (h : nest outer current lexemes = some trees) :
    (outermost outer current).reverse <+: trees := by
  fun_induction nest outer current lexemes with
  | case1 current => exact (Option.some.inj h) ▸ List.prefix_refl _
  | case2 => exact nomatch h
  | case3 outer current delimiter lexemes ih => exact ih h
  | case4 => exact nomatch h
  | case5 before outer current delimiter lexemes ih =>
    have hp : (outermost outer before).reverse <+: trees := outermost_isPrefix_cons.trans (ih h)
    exact hp
  | case6 => exact nomatch h
  | case7 outer current text lexemes ih => exact outermost_isPrefix_cons.trans (ih h)
  | case8 outer current text lexemes ih => exact outermost_isPrefix_cons.trans (ih h)
  | case9 outer current text lexemes ih => exact outermost_isPrefix_cons.trans (ih h)
  | case10 outer current c joint lexemes ih => exact outermost_isPrefix_cons.trans (ih h)

theorem nest_leaf (h : lexeme.leaf? = some tree) :
    nest [] current (lexeme :: lexemes) = nest [] (tree :: current) lexemes := by
  cases lexeme <;> simp_all [Lexeme.leaf?, nest]

theorem dropByteOrderMark_of_not_isMark {c : Char} (h : isMark c = false) (rest : List Char) :
    dropByteOrderMark (c :: rest) = c :: rest := by
  have hne : c ≠ '\ufeff' := ne_of_not_isMark h (by decide)
  simp [dropByteOrderMark, hne]

/-- **Words of letters.** A text without marks whose only token is a word is that word. -/
theorem isWord_of_ofText? {source text : String} (marks : ∀ c ∈ source.toList, isMark c = false)
    (h : ofText? source = some [.word text]) : Word.isWord source.toList = true := by
  obtain ⟨lexemes, hcut, hnest⟩ := Option.bind_eq_some_iff.mp h
  cases hs : source.toList with
  | nil =>
    rw [hs] at hcut
    cases hcut
    simp [nest] at hnest
  | cons c rest =>
    rw [hs] at hcut marks
    have hc := marks c List.mem_cons_self
    have hr : ∀ d ∈ rest, isMark d = false := fun d hd => marks d (List.mem_cons_of_mem _ hd)
    rw [dropByteOrderMark_of_not_isMark hc] at hcut
    obtain ⟨lexeme, tree, after, fuel, others, rfl, ht, ho, hw⟩ :=
      Lexeme.exists_of_cutAtMost_cons hc hcut
    rw [nest_leaf ht] at hnest
    have hfirst : [tree] <+: [.word text] := outermost_isPrefix hnest
    have hword := hw text (List.cons_prefix_cons.mp hfirst).1
    rw [Lexeme.scanWord_of_not_isMark hr] at hword
    obtain ⟨⟨name, after'⟩, hplain, he⟩ := Option.map_eq_some_iff.mp hword
    obtain ⟨-, rfl⟩ := Prod.mk.inj he
    obtain ⟨hstart, rfl⟩ := Lexeme.scanPlainWord_cons hplain
    cases hafter : rest.dropWhile isIdentifierContinue with
    | nil =>
      rw [Word.isWord, hstart, List.all_eq_true.mpr (List.dropWhile_eq_nil_iff.mp hafter)]
      rfl
    | cons d more =>
      -- Whatever follows the word would be a second token.
      have hd : d ∈ rest :=
        (List.dropWhile_sublist isIdentifierContinue).subset (hafter ▸ List.mem_cons_self)
      rw [hafter] at ho
      obtain ⟨lexeme', tree', -, -, others', rfl, ht', -, -⟩ :=
        Lexeme.exists_of_cutAtMost_cons (hr d hd) ho
      rw [nest_leaf ht'] at hnest
      have hlength := (outermost_isPrefix hnest).length_le
      simp [outermost] at hlength

/-- **A word is its own only token.** -/
theorem ofText?_of_isWord {text : String} (h : Word.isWord text.toList = true) :
    ofText? text = some [.word text] := by
  cases hs : text.toList with
  | nil =>
    rw [hs] at h
    exact nomatch h
  | cons c rest =>
    rw [hs] at h
    have hc : isMark c = false := Word.isMark_of_mem h List.mem_cons_self
    have hr : ∀ d ∈ rest, isMark d = false :=
      fun d hd => Word.isMark_of_mem h (List.mem_cons_of_mem _ hd)
    have hword : Lexeme.scanWord (c :: rest) = some (text, []) := by
      rw [Lexeme.scanWord_of_not_isMark hr, Lexeme.scanPlainWord_of_isWord h, Option.map_some,
        ← hs]
      simp only [String.ofList_toList]
    have hopening := Bool.eq_false_iff.mp (Lexeme.literalOpenings_of_isWord h)
    have htoken : Lexeme.scanToken (c :: rest) = some (.word text, []) := by
      rw [Lexeme.scanToken_of_not_isMark hc, Literal.read_of_isWord h]
      exact (if_neg hopening).trans (by rw [hword, Option.map_some])
    rw [ofText?, hs, dropByteOrderMark_of_not_isMark hc, Lexeme.cut,
      Lexeme.cutAtMost_succ_of_not_isMark hc, htoken]
    simp [Lexeme.cutAtMost, Lexeme.skipTrivia, nest]

end TokenStream

end KeyedCoding
