import KeyedCoding.Proofs.Grammar.Paths
import KeyedCoding.Proofs.Grammar.Identifiers

/-!
# Paths of words

The path of an attribute has words only: identifiers, and the keywords that may stand in a path. As
a text it is these words with `::` between them. A `::` in front of the path is not part of the
text, and the words can be read off the text again.

## Main definitions

* `Path.ofWords`: a path of words.
* `Path.Spells`: tokens are a path of words.
* `Word.IsSegment`: the words that a path may have.

## Main results

* `Rules.exists_spells_of_run_wordPath`, `Rules.run_wordPath`: a path of words is read from its
  tokens, and from no others.
* `Path.text_ofWords`: the text of a path of words.
* `Path.text_ofWords_inj`: the words of a path are determined by its text.
-/

namespace KeyedCoding

open KeyedCoding.Parser Text

namespace Path

/-- A path of words. -/
def ofWords (leading : Bool) (words : List String) : Path := ⟨leading, words.map .plain⟩

/-- Tokens are words with `::` in front of each. -/
inductive SpellsRest : List String → TokenStream → Prop
  | nil : SpellsRest [] []
  | cons {words : List String} {tokens : TokenStream} (joint : Bool) (word : String)
      (rest : SpellsRest words tokens) :
      SpellsRest (word :: words) (.punct ':' true :: .punct ':' joint :: .word word :: tokens)

/-- Tokens are words with `::` between them, and in front of the first one if the path has it. -/
inductive Spells : Bool → List String → TokenStream → Prop
  | plain {words : List String} {tokens : TokenStream} (word : String)
      (rest : SpellsRest words tokens) : Spells false (word :: words) (.word word :: tokens)
  | rooted {words : List String} {tokens : TokenStream} (ne : words ≠ [])
      (rest : SpellsRest words tokens) : Spells true words tokens

end Path

/-! ### Reading a path of words -/

theorem Path.SpellsRest.length_le {words : List String} {tokens : TokenStream}
    (h : SpellsRest words tokens) : words.length ≤ tokens.length := by
  induction h with
  | nil => exact Nat.le_refl _
  | cons joint word rest ih =>
    simp only [List.length_cons]
    omega

namespace Rules

variable {test : String → Bool} {tokens front rest : TokenStream} {words : List String}

/-- The words of a path after its first one. -/
private abbrev moreWords (test : String → Bool) : Nat → Parser (List String) :=
  repeatUntil (return !(← peekSymbol "::")) (do let _ ← symbol "::"; wordWhere test)

private theorem run_moreWords_of_noColons (noColons : startsWithSymbol [':', ':'] tokens = false)
    (fuel : Nat) : StateT.run (moreWords test (fuel + 1)) tokens = some ([], tokens) := by
  rw [moreWords, repeatUntil]
  simp [noColons]

private theorem run_moreWords_of_colons (joint : Bool) (fuel : Nat) :
    StateT.run (moreWords test (fuel + 1)) (.punct ':' true :: .punct ':' joint :: tokens) =
      StateT.run (do return (← wordWhere test) :: (← moreWords test fuel)) tokens := by
  have goesOn : StateT.run (do return !(← peekSymbol "::"))
      (.punct ':' true :: .punct ':' joint :: tokens) =
      some (false, .punct ':' true :: .punct ':' joint :: tokens) := rfl
  rw [moreWords, repeatUntil, run_bind_of_run goesOn, run_ite, if_neg Bool.false_ne_true,
    bind_assoc, run_symbol_bind rfl]
  rfl

private theorem run_moreWords (h : Path.SpellsRest words front)
    (tests : ∀ word ∈ words, test word = true)
    (noColons : startsWithSymbol [':', ':'] rest = false) {fuel : Nat}
    (enough : words.length < fuel) :
    StateT.run (moreWords test fuel) (front ++ rest) = some (words, rest) := by
  induction h generalizing fuel with
  | nil =>
    obtain ⟨fuel, rfl⟩ := Nat.exists_eq_succ_of_ne_zero (Nat.ne_zero_of_lt enough)
    exact run_moreWords_of_noColons noColons fuel
  | @cons words tokens joint word _ ih =>
    obtain ⟨fuel, rfl⟩ := Nat.exists_eq_succ_of_ne_zero (Nat.ne_zero_of_lt enough)
    obtain ⟨first, others⟩ := List.forall_mem_cons.mp tests
    have after := ih others (Nat.lt_of_succ_lt_succ enough)
    change StateT.run (moreWords test (fuel + 1))
      (.punct ':' true :: .punct ':' joint :: .word word :: (tokens ++ rest)) = _
    rw [run_moreWords_of_colons, run_wordWhere_bind, if_pos first, run_bind_of_run after]
    rfl

private theorem exists_spellsRest_of_run_moreWords {fuel : Nat}
    (run : StateT.run (moreWords test fuel) tokens = some (words, rest)) :
    ∃ front, tokens = front ++ rest ∧ Path.SpellsRest words front ∧
      ∀ word ∈ words, test word = true := by
  induction fuel generalizing tokens words with
  | zero => exact nomatch run
  | succ fuel ih =>
    by_cases colons : startsWithSymbol [':', ':'] tokens = true
    · obtain ⟨joint, more, rfl⟩ := startsWithSymbol_pair_iff.mp colons
      rw [run_moreWords_of_colons] at run
      obtain ⟨word, _, hw, run⟩ := run_bind_eq_some_iff.mp run
      obtain ⟨others, _, ho, run⟩ := run_bind_eq_some_iff.mp run
      cases run
      obtain ⟨rfl, first⟩ := run_wordWhere_eq_some_iff.mp hw
      obtain ⟨front, rfl, spells, tests⟩ := ih ho
      exact ⟨_, rfl, .cons joint word spells, List.forall_mem_cons.mpr ⟨first, tests⟩⟩
    · rw [run_moreWords_of_noColons (Bool.eq_false_iff.mpr colons)] at run
      cases run
      exact ⟨[], rfl, .nil, List.forall_mem_nil _⟩

/-- The words of a path after the `::` that may stand in front of it. -/
private abbrev wordsAfter (test : String → Bool) (marks : TokenStream) : Parser Path := do
  let first ← wordWhere test
  let rest ← repeated (return !(← peekSymbol "::")) do
    let _ ← symbol "::"
    wordWhere test
  return ⟨!marks.isEmpty, (first :: rest).map .plain⟩

private theorem run_wordPath_eq (test : String → Bool) (tokens : TokenStream) :
    StateT.run (wordPath test) tokens = if startsWithSymbol [':', ':'] tokens then
      StateT.run (wordsAfter test (TokenStream.symbol "::")) (tokens.drop 2)
    else StateT.run (wordsAfter test []) tokens :=
  run_symbol?_bind "::" (wordsAfter test)

private theorem run_wordsAfter (marks : TokenStream) {word : String}
    (h : Path.SpellsRest words front) (tests : ∀ other ∈ word :: words, test other = true)
    (noColons : startsWithSymbol [':', ':'] rest = false) :
    StateT.run (wordsAfter test marks) (.word word :: (front ++ rest)) =
      some (.ofWords (!marks.isEmpty) (word :: words), rest) := by
  obtain ⟨first, others⟩ := List.forall_mem_cons.mp tests
  have enough : words.length < (front ++ rest).length + 1 := by
    have := h.length_le
    rw [List.length_append]
    omega
  rw [wordsAfter, run_wordWhere_bind, if_pos first]
  rw [run_bind_of_run ((run_repeated _ _).trans (run_moreWords h others noColons enough))]
  rfl

private theorem exists_of_run_wordsAfter {marks : TokenStream} {path : Path}
    (run : StateT.run (wordsAfter test marks) tokens = some (path, rest)) :
    ∃ word words front, path = .ofWords (!marks.isEmpty) (word :: words) ∧
      tokens = .word word :: (front ++ rest) ∧ Path.SpellsRest words front ∧
      ∀ other ∈ word :: words, test other = true := by
  obtain ⟨word, _, hw, run⟩ := run_bind_eq_some_iff.mp run
  obtain ⟨words, _, hr, run⟩ := run_bind_eq_some_iff.mp run
  cases run
  obtain ⟨rfl, first⟩ := run_wordWhere_eq_some_iff.mp hw
  obtain ⟨front, rfl, spells, others⟩ := exists_spellsRest_of_run_moreWords hr
  exact ⟨word, words, front, rfl, rfl, spells, List.forall_mem_cons.mpr ⟨first, others⟩⟩

/-- **A path of words is read from its tokens.** What follows does not go on with it. -/
theorem run_wordPath {leading : Bool} (h : Path.Spells leading words front)
    (tests : ∀ word ∈ words, test word = true)
    (noColons : startsWithSymbol [':', ':'] rest = false) :
    StateT.run (wordPath test) (front ++ rest) = some (.ofWords leading words, rest) := by
  rw [run_wordPath_eq]
  cases h with
  | plain word spells => exact run_wordsAfter [] spells tests noColons
  | rooted ne spells =>
    cases spells with
    | nil => exact absurd rfl ne
    | cons joint word spells =>
      exact run_wordsAfter (TokenStream.symbol "::") spells tests noColons

/-- What is read as a path of words are its tokens. -/
theorem exists_spells_of_run_wordPath {path : Path}
    (run : StateT.run (wordPath test) tokens = some (path, rest)) :
    ∃ leading words front, path = .ofWords leading words ∧ tokens = front ++ rest ∧
      Path.Spells leading words front ∧ ∀ word ∈ words, test word = true := by
  rw [run_wordPath_eq] at run
  split at run
  · next colons =>
    obtain ⟨joint, more, rfl⟩ := startsWithSymbol_pair_iff.mp colons
    obtain ⟨word, words, front, rfl, rfl, spells, tests⟩ := exists_of_run_wordsAfter run
    exact ⟨true, _, _, rfl, rfl, .rooted (List.cons_ne_nil _ _) (.cons joint word spells), tests⟩
  · obtain ⟨word, words, front, rfl, rfl, spells, tests⟩ := exists_of_run_wordsAfter run
    exact ⟨false, _, _, rfl, rfl, .plain word spells, tests⟩

end Rules

/-! ### The text of a path of words -/

/-- A word that a path may have: an identifier, or one of the keywords for paths. -/
def Word.IsSegment (word : String) : Prop :=
  (∃ ident : Ident, word = ident.text) ∨ word ∈ ["super", "self", "Self", "crate", "unsafe"]

/-- A segment is not empty, and has no colon and no blank in it. -/
theorem Word.IsSegment.chars {word : String} (h : IsSegment word) :
    word.toList ≠ [] ∧ ∀ c ∈ word.toList, c ≠ ':' ∧ c ≠ ' ' := by
  rcases h with ⟨ident, rfl⟩ | keyword
  · have name : ∀ c ∈ ident.name.toList, c ≠ ':' ∧ c ≠ ' ' := fun c hc =>
      have unmarked := Word.isMark_of_mem ident.isWord_name hc
      ⟨ne_of_not_isMark unmarked (by decide), ne_of_not_isMark unmarked (by decide)⟩
    rw [Ident.text]
    split
    · rw [String.toList_append]
      refine ⟨by simp, fun c hc => ?_⟩
      rcases List.mem_append.mp hc with mark | hc
      · have marks : ∀ c ∈ "r#".toList, c ≠ ':' ∧ c ≠ ' ' := by simp
        exact marks c mark
      · exact name c hc
    · exact ⟨fun he => ident.name_ne (String.toList_eq_nil_iff.mp he), name⟩
  · have keywords : ∀ word ∈ ["super", "self", "Self", "crate", "unsafe"],
        word.toList ≠ [] ∧ ∀ c ∈ word.toList, c ≠ ':' ∧ c ≠ ' ' := by simp
    exact keywords word keyword

namespace Path

variable {words words' : List String} {word : String}

private theorem pathTokens_plain_cons (word : String) (words : List String) :
    ∃ more, Segment.pathTokens ((word :: words).map .plain) = .word word :: more :=
  ⟨_, Segment.pathTokens_cons _ _⟩

/-- In the text of tokens blanks stand only around the `::` between two words. -/
private theorem filter_writeAllTo (noBlank : ∀ other ∈ word :: words, ∀ c ∈ other.toList, c ≠ ' ')
    (out : String) :
    (TokenTree.writeAllTo out (Segment.pathTokens ((word :: words).map .plain))).toList.filter
        (· != ' ') =
      out.toList.filter (· != ' ') ++ ("::".intercalate (word :: words)).toList := by
  obtain ⟨first, rest⟩ := List.forall_mem_cons.mp noBlank
  have kept : word.toList.filter (· != ' ') = word.toList :=
    List.filter_eq_self.mpr (by simpa using first)
  induction words generalizing word out with
  | nil => simp [Segment.pathTokens, Segment.tokens, TokenTree.writeAllTo, TokenTree.writeTo, kept]
  | cons second others ih =>
    have step : TokenTree.writeAllTo out
          (Segment.pathTokens ((word :: second :: others).map .plain)) =
        TokenTree.writeAllTo (out ++ word ++ " :: ")
          (Segment.pathTokens ((second :: others).map .plain)) := by
      obtain ⟨more, hm⟩ := pathTokens_plain_cons second others
      have tokens : Segment.pathTokens ((word :: second :: others).map .plain) =
          .word word :: .punct ':' true :: .punct ':' false :: .word second :: more :=
        hm ▸ rfl
      have colons : ((((out ++ word).push ' ').push ':').push ':').push ' ' =
          out ++ word ++ " :: " :=
        String.toList_injective (by simp)
      rw [tokens, hm, ← colons]
      simp [TokenTree.writeAllTo, TokenTree.writeTo, TokenTree.isJoint]
    obtain ⟨hs, ho⟩ := List.forall_mem_cons.mp rest
    rw [step, ih rest _ hs ho (List.filter_eq_self.mpr (by simpa using hs))]
    simp [kept]

/-- The text of a path starts with a character of its first word. -/
private theorem exists_intercalate_eq_cons (ne : words ≠ [])
    (segments : ∀ word ∈ words, Word.IsSegment word) :
    ∃ first rest, ("::".intercalate words).toList = first :: rest ∧ first ≠ ':' := by
  obtain ⟨word, others, rfl⟩ := List.exists_cons_of_ne_nil ne
  obtain ⟨nonempty, chars⟩ := (segments word List.mem_cons_self).chars
  obtain ⟨first, rest, he⟩ := List.exists_cons_of_ne_nil nonempty
  have hf : first ≠ ':' := (chars first (he ▸ List.mem_cons_self)).1
  cases others with
  | nil => exact ⟨first, rest, by rw [String.intercalate_singleton, he], hf⟩
  | cons second others =>
    refine ⟨first, rest ++ "::".toList ++ ("::".intercalate (second :: others)).toList, ?_, hf⟩
    rw [String.intercalate_cons_cons, String.toList_append, String.toList_append, he,
      List.cons_append, List.cons_append]

/-- The text of a path ends with a character of its last word. -/
private theorem exists_intercalate_eq_concat (ne : words ≠ [])
    (segments : ∀ word ∈ words, Word.IsSegment word) :
    ∃ front last, ("::".intercalate words).toList = front ++ [last] ∧ last ≠ ':' := by
  induction words with
  | nil => exact absurd rfl ne
  | cons word others ih =>
    obtain ⟨first, rest⟩ := List.forall_mem_cons.mp segments
    cases others with
    | nil =>
      obtain ⟨nonempty, chars⟩ := first.chars
      refine ⟨word.toList.dropLast, word.toList.getLast nonempty, ?_,
        (chars _ (List.getLast_mem nonempty)).1⟩
      rw [String.intercalate_singleton, List.dropLast_append_getLast]
    | cons second others =>
      obtain ⟨front, last, he, hl⟩ := ih (List.cons_ne_nil _ _) rest
      refine ⟨word.toList ++ "::".toList ++ front, last, ?_, hl⟩
      rw [String.intercalate_cons_cons, String.toList_append, String.toList_append, he,
        List.append_assoc _ front]

/-- Only the `::` in front of a path is trimmed. -/
private theorem trimColons_intercalate (leading : Bool) (ne : words ≠ [])
    (segments : ∀ word ∈ words, Word.IsSegment word) :
    trimColons ((if leading then [':', ':'] else []) ++ ("::".intercalate words).toList) =
      ("::".intercalate words).toList := by
  obtain ⟨front, last, he, hl⟩ := exists_intercalate_eq_concat ne segments
  have start : ((if leading then [':', ':'] else []) ++ ("::".intercalate words).toList).dropWhile
      (· == ':') = ("::".intercalate words).toList := by
    obtain ⟨first, more, hf, hne⟩ := exists_intercalate_eq_cons ne segments
    rw [hf]
    cases leading <;> simp [hne]
  rw [trimColons, start, he, List.reverse_append, List.reverse_singleton, List.singleton_append,
    List.dropWhile_cons_of_neg (by simpa using hl), List.reverse_cons, List.reverse_reverse]

/-- **The text of a path of words** is the words with `::` between them. -/
theorem text_ofWords (leading : Bool) (ne : words ≠ [])
    (segments : ∀ word ∈ words, Word.IsSegment word) :
    (ofWords leading words).text = "::".intercalate words := by
  have filtered : (TokenStream.text (ofWords leading words).tokens).toList.filter (· != ' ') =
      (if leading then [':', ':'] else []) ++ ("::".intercalate words).toList := by
    obtain ⟨word, others, rfl⟩ := List.exists_cons_of_ne_nil ne
    have noBlank := fun other hm c hc => ((segments other hm).chars.2 c hc).2
    cases leading with
    | false => exact filter_writeAllTo noBlank ""
    | true =>
      have start : TokenStream.text (ofWords true (word :: others)).tokens =
          TokenTree.writeAllTo ":: " (Segment.pathTokens ((word :: others).map .plain)) := by
        obtain ⟨more, hm⟩ := pathTokens_plain_cons word others
        have tokens : (ofWords true (word :: others)).tokens =
            .punct ':' true :: .punct ':' false :: .word word :: more := hm ▸ rfl
        rw [tokens, hm]
        rfl
      rw [start]
      exact filter_writeAllTo noBlank ":: "
  rw [text, filtered, trimColons_intercalate leading ne segments, String.ofList_toList]

/-- The words can be read off the text. -/
theorem filter_splitOn_intercalate (ne : words ≠ [])
    (segments : ∀ word ∈ words, Word.IsSegment word) :
    (("::".intercalate words).toList.splitOn ':').filter (· ≠ []) = words.map String.toList := by
  induction words with
  | nil => exact absurd rfl ne
  | cons word others ih =>
    obtain ⟨first, rest⟩ := List.forall_mem_cons.mp segments
    obtain ⟨nonempty, chars⟩ := first.chars
    have noColon : ':' ∉ word.toList := fun hc => (chars _ hc).1 rfl
    cases others with
    | nil =>
      have alone : word.toList.splitOn ':' = [word.toList] :=
        List.splitOnP_eq_singleton fun c hc => by simpa using (chars c hc).1
      simp [alone, nonempty]
    | cons second others =>
      have pair : ("::".intercalate (word :: second :: others)).toList =
          word.toList ++ ':' :: ([] ++ ':' :: ("::".intercalate (second :: others)).toList) := by
        simp
      rw [pair, List.splitOn_append_cons_self_of_not_mem noColon,
        List.splitOn_append_cons_self_of_not_mem List.not_mem_nil, List.filter_cons_of_pos,
        List.filter_cons_of_neg, ih (List.cons_ne_nil _ _) rest]
      · simp
      · simp
      · simpa using nonempty

/-- **Paths of words with the same text have the same words.** -/
theorem text_ofWords_inj {leading leading' : Bool} (ne : words ≠ []) (ne' : words' ≠ [])
    (segments : ∀ word ∈ words, Word.IsSegment word)
    (segments' : ∀ word ∈ words', Word.IsSegment word) :
    (ofWords leading words).text = (ofWords leading' words').text ↔ words = words' := by
  rw [text_ofWords leading ne segments, text_ofWords leading' ne' segments']
  refine ⟨fun same => ?_, congrArg _⟩
  have read := filter_splitOn_intercalate ne segments
  rw [same, filter_splitOn_intercalate ne' segments'] at read
  exact (List.map_injective_iff.mpr (fun _ _ => String.toList_injective) read).symm

end Path

end KeyedCoding
