import KeyedCoding.Grammar.Source
import Mathlib.Data.List.Basic
import Mathlib.Data.Option.Basic

/-!
# Running parsers on given tokens

What a parser does with tokens that are known in part. A parser that looks ahead goes on with what
it has seen, and an identifier is none of the words that a rule looks for. With these facts a rule
is run on tokens whose first few are known.

## Main definitions

* `Parser.Takes`: a parser takes tokens if others follow.
* `Listed`: tokens that are items with commas.

## Main results

* `Parser.run_bind_of_run`: a parser runs on from where another one has stopped.
* `Parser.takes_separated`: a list is taken item by item.
-/

namespace KeyedCoding

variable {α β : Type}

/-- An identifier is none of the reserved words. -/
@[simp]
theorem Word.eq_iff_false_of_isIdent {word keyword : String} (h : isIdent word = true)
    (reserved : isReserved keyword = true) : word = keyword ↔ False := by
  refine iff_false_intro ?_
  rintro rfl
  simp [isIdent, reserved] at h

/-- Whether a path may start with a word where a type or an expression starts. -/
def Word.startsPath (word : String) : Bool :=
  isIdent word || ["super", "self", "Self", "crate"].contains word

theorem Word.startsPath_of_isIdent {word : String} (h : isIdent word = true) :
    startsPath word = true := by
  simp [startsPath, h]

/-- A word that starts a path is none of the words that start none. -/
@[simp]
theorem Word.eq_iff_false_of_startsPath {word keyword : String} (h : startsPath word = true)
    (other : startsPath keyword = false) : word = keyword ↔ False := by
  refine iff_false_intro ?_
  rintro rfl
  exact Bool.false_ne_true (other.symm.trans h)

namespace Parser

/-! ### Looking ahead -/

theorem startsWithSymbol_singleton_iff {c : Char} {tokens : TokenStream} :
    startsWithSymbol [c] tokens = true ↔ ∃ joint more, tokens = .punct c joint :: more := by
  constructor
  · intro h
    cases tokens with
    | nil => simp [startsWithSymbol] at h
    | cons token more =>
      cases token with
      | punct char joint =>
        obtain rfl : c = char := by simpa [startsWithSymbol] using h
        exact ⟨joint, more, rfl⟩
      | _ => simp [startsWithSymbol] at h
  · rintro ⟨joint, more, rfl⟩
    simp [startsWithSymbol]

/-- An operator starts with its first character. -/
theorem startsWithSymbol_cons {c : Char} {cs : List Char} {tokens : TokenStream}
    (h : startsWithSymbol (c :: cs) tokens = true) : startsWithSymbol [c] tokens = true := by
  cases cs with
  | nil => exact h
  | cons d ds =>
    cases tokens with
    | nil => simp [startsWithSymbol] at h
    | cons token more =>
      cases token with
      | punct char joint =>
        simp only [startsWithSymbol, Bool.and_eq_true] at h
        exact h.1.1
      | _ => simp [startsWithSymbol] at h

theorem startsWithSymbol_pair_iff {c d : Char} {tokens : TokenStream} :
    startsWithSymbol [c, d] tokens = true ↔
      ∃ joint more, tokens = .punct c true :: .punct d joint :: more := by
  constructor
  · intro h
    obtain ⟨joint, more, rfl⟩ := startsWithSymbol_singleton_iff.mp (startsWithSymbol_cons h)
    obtain ⟨rfl, hd⟩ : joint = true ∧ startsWithSymbol [d] more = true := by
      simpa [startsWithSymbol] using h
    obtain ⟨joint, more, rfl⟩ := startsWithSymbol_singleton_iff.mp hd
    exact ⟨joint, more, rfl⟩
  · rintro ⟨joint, more, rfl⟩
    simp [startsWithSymbol]

section Run

variable {tokens rest : TokenStream}

/-- A parser runs on from where another one has stopped. -/
theorem run_bind_of_run {parser : Parser α} {next : α → Parser β} {result : α}
    (h : StateT.run parser tokens = some (result, rest)) :
    StateT.run (parser >>= next) tokens = StateT.run (next result) rest := by
  rw [StateT.run_bind, h]
  rfl

theorem run?_eq_some_iff {parser : Parser α} {result : α} :
    parser.run? tokens = some result ↔ StateT.run parser tokens = some (result, []) := by
  rw [run?]
  split
  · next read => simp [read]
  · next other => exact iff_of_false (fun h => nomatch h) fun read => other _ read

/-- Of two parsers one after the other the second one runs from where the first one has stopped. -/
theorem run_bind_eq_some_iff {parser : Parser α} {next : α → Parser β} {result : β} :
    StateT.run (parser >>= next) tokens = some (result, rest) ↔
      ∃ first between, StateT.run parser tokens = some (first, between) ∧
        StateT.run (next first) between = some (result, rest) := by
  rw [StateT.run_bind, Option.bind_eq_bind, Option.bind_eq_some_iff, Prod.exists]

-- A rule is simplified from its first step on (`↓`), and not from inside: so the branches that are
-- not taken are never visited.

@[simp ↓]
theorem run_ite {condition : Prop} [Decidable condition] (first second : Parser α) :
    StateT.run (if condition then first else second) tokens =
      if condition then StateT.run first tokens else StateT.run second tokens := by
  split <;> rfl

theorem run_next_eq_some_iff {token : TokenTree} :
    StateT.run Parser.next tokens = some (token, rest) ↔ tokens = token :: rest := by
  constructor
  · intro run
    cases tokens with
    | nil => exact nomatch run
    | cons first more =>
      cases run
      rfl
  · rintro rfl
    rfl

theorem run_liftM_eq_some_iff {result? : Option α} {result : α} :
    StateT.run (liftM result? : Parser α) tokens = some (result, rest) ↔
      result? = some result ∧ tokens = rest := by
  cases result? with
  | none => exact iff_of_false (fun run => nomatch run) fun h => nomatch h.1
  | some given =>
    change some (given, tokens) = some (result, rest) ↔ _
    simp

/-- A check fails or takes nothing. -/
theorem run_check_eq_some_iff {condition : Bool} {result : Unit} :
    StateT.run (check condition) tokens = some (result, rest) ↔
      condition = true ∧ tokens = rest := by
  rw [check, run_ite]
  split
  · next holds => simp [holds]
  · next fails => exact iff_of_false (fun run => nomatch run) fun h => fails h.1

theorem run_repeated (stop : Parser Bool) (parser : Parser α) :
    StateT.run (repeated stop parser) tokens =
      StateT.run (repeatUntil stop parser (tokens.length + 1)) tokens := rfl

variable (next : Bool → Parser α)

@[simp]
theorem run_peekSymbol (spelling : String) (skip : Nat) :
    StateT.run (peekSymbol spelling skip) tokens =
      some (startsWithSymbol spelling.toList (tokens.drop skip), tokens) := by
  rw [peekSymbol]
  rfl

@[simp ↓]
theorem run_peekSymbol_bind (spelling : String) (skip : Nat) :
    StateT.run (peekSymbol spelling skip >>= next) tokens =
      StateT.run (next (startsWithSymbol spelling.toList (tokens.drop skip))) tokens :=
  run_bind_of_run rfl

theorem exists_run_peekSymbolOf (spellings : List String) :
    ∃ result, StateT.run (peekSymbolOf spellings) tokens = some (result, tokens) := by
  induction spellings with
  | nil => exact ⟨_, rfl⟩
  | cons spelling others ih =>
    rw [peekSymbolOf, run_peekSymbol_bind, run_ite]
    split
    · exact ⟨_, rfl⟩
    · exact ih

@[simp]
theorem run_peekKeyword (keyword : String) (skip : Nat) :
    StateT.run (peekKeyword keyword skip) tokens =
      some (match tokens.drop skip with
        | .word text :: _ => text == keyword
        | _ => false, tokens) := by
  rw [peekKeyword]
  rfl

@[simp ↓]
theorem run_peekKeyword_bind (keyword : String) (skip : Nat) :
    StateT.run (peekKeyword keyword skip >>= next) tokens =
      StateT.run (next (match tokens.drop skip with
        | .word text :: _ => text == keyword
        | _ => false)) tokens := run_bind_of_run rfl

@[simp ↓]
theorem run_peekKeywordOf_bind (keywords : List String) (skip : Nat) :
    StateT.run (peekKeywordOf keywords skip >>= next) tokens =
      StateT.run (next (match tokens.drop skip with
        | .word text :: _ => keywords.contains text
        | _ => false)) tokens := run_bind_of_run rfl

@[simp ↓]
theorem run_peekPath_bind :
    StateT.run (Rules.peekPath >>= next) tokens =
      StateT.run (next ((match tokens with
          | .word text :: _ => Word.startsPath text
          | _ => false) ||
        startsWithSymbol "::".toList tokens || startsWithSymbol "<".toList tokens)) tokens := by
  cases tokens with
  | nil => rfl
  | cons token more => cases token <;> rfl

@[simp ↓]
theorem run_peekGroup_bind (delimiter : Delimiter) (skip : Nat) :
    StateT.run (peekGroup delimiter skip >>= next) tokens =
      StateT.run (next (match tokens.drop skip with
        | .group delimiter' _ :: _ => delimiter == delimiter'
        | _ => false)) tokens := run_bind_of_run rfl

@[simp ↓]
theorem run_peekLifetime_bind (skip : Nat) :
    StateT.run (peekLifetime skip >>= next) tokens =
      StateT.run (next (match tokens.drop skip with
        | .lifetime _ :: _ => true
        | _ => false)) tokens := run_bind_of_run rfl

@[simp ↓]
theorem run_peekLiteral_bind :
    StateT.run (peekLiteral >>= next) tokens =
      StateT.run (next (StateT.run literal tokens).isSome) tokens := run_bind_of_run rfl

/-- A word is taken if it passes the test. -/
@[simp]
theorem run_wordWhere (test : String → Bool) (word : String) :
    StateT.run (wordWhere test) (.word word :: tokens) =
      if test word then some (word, tokens) else none := by
  change StateT.run (check (test word) >>= fun _ => pure word) tokens = _
  rw [check]
  split <;> rfl

/-- Only a word is taken as one. -/
theorem run_wordWhere_eq_some_iff {test : String → Bool} {word : String} :
    StateT.run (wordWhere test) tokens = some (word, rest) ↔
      tokens = .word word :: rest ∧ test word = true := by
  constructor
  · intro run
    cases tokens with
    | nil => exact nomatch run
    | cons token more =>
      cases token with
      | word text =>
        rw [run_wordWhere] at run
        split at run
        · cases run
          exact ⟨rfl, ‹_›⟩
        · exact nomatch run
      | _ => exact nomatch run
  · rintro ⟨rfl, passes⟩
    rw [run_wordWhere, if_pos passes]

@[simp ↓]
theorem run_wordWhere_bind (test : String → Bool) (word : String) (next : String → Parser α) :
    StateT.run (wordWhere test >>= next) (.word word :: tokens) =
      if test word then StateT.run (next word) tokens else none := by
  rw [StateT.run_bind, run_wordWhere]
  split <;> rfl

/-- An operator is taken if it follows. -/
@[simp]
theorem run_symbol {spelling : String} (h : startsWithSymbol spelling.toList tokens = true) :
    StateT.run (symbol spelling) tokens =
      some (TokenStream.symbol spelling, tokens.drop spelling.toList.length) := by
  change StateT.run (do check (startsWithSymbol spelling.toList tokens); _) tokens = _
  rw [h, String.length_toList]
  rfl

theorem run_symbol_eq_some_iff {spelling : String} {result : TokenStream} :
    StateT.run (symbol spelling) tokens = some (result, rest) ↔
      startsWithSymbol spelling.toList tokens = true ∧ result = TokenStream.symbol spelling ∧
        rest = tokens.drop spelling.toList.length := by
  by_cases h : startsWithSymbol spelling.toList tokens = true
  · simp [run_symbol h, h, eq_comm]
  · have fails : StateT.run (symbol spelling) tokens = none := by
      change StateT.run (do check (startsWithSymbol spelling.toList tokens); _) tokens = _
      rw [Bool.eq_false_iff.mpr h]
      rfl
    simp [fails, h]

@[simp ↓]
theorem run_symbol_bind {spelling : String} {next : TokenStream → Parser α}
    (h : startsWithSymbol spelling.toList tokens = true) :
    StateT.run (symbol spelling >>= next) tokens =
      StateT.run (next (TokenStream.symbol spelling)) (tokens.drop spelling.toList.length) :=
  run_bind_of_run (run_symbol h)

@[simp ↓]
theorem run_takeIf_bind (condition : Parser Bool) (parser : Parser TokenStream)
    (next : TokenStream → Parser α) : StateT.run (takeIf condition parser >>= next) tokens =
      StateT.run (condition >>= fun holds =>
        if holds then parser >>= next else next []) tokens := by
  rw [takeIf, bind_assoc]
  congr 1
  refine congrArg _ (funext fun holds => ?_)
  cases holds <;> simp

@[simp ↓]
theorem run_symbol?_bind (spelling : String) (next : TokenStream → Parser α) :
    StateT.run (symbol? spelling >>= next) tokens =
      if startsWithSymbol spelling.toList tokens then
        StateT.run (next (TokenStream.symbol spelling)) (tokens.drop spelling.toList.length)
      else StateT.run (next []) tokens := by
  rw [symbol?, run_takeIf_bind, run_peekSymbol_bind, run_ite]
  by_cases h : startsWithSymbol spelling.toList tokens = true
  · rw [List.drop_zero, if_pos h, if_pos h, run_symbol_bind h]
  · rw [List.drop_zero, if_neg h, if_neg h]

/-- A keyword is taken if it follows. -/
@[simp]
theorem run_keyword?_word (text word : String) :
    StateT.run (keyword? text) (.word word :: tokens) =
      if word == text then some ([.word word], tokens) else some ([], .word word :: tokens) := by
  rw [keyword?, takeIf, run_peekKeyword_bind, run_ite, List.drop_zero]
  by_cases same : (word == text) = true
  · rw [if_pos same, if_pos same, keyword, run_wordWhere_bind, if_pos same]
    rfl
  · rw [if_neg same, if_neg same]
    rfl

/-- A group is taken if its content is read to its end. -/
theorem run_group {delimiter : Delimiter} {content : Parser α} {inner : TokenStream} {result : α}
    (h : StateT.run content inner = some (result, [])) :
    StateT.run (group delimiter content) (.group delimiter inner :: rest) =
      some (result, rest) := by
  have whole : content.run? inner = some result := run?_eq_some_iff.mpr h
  change StateT.run (check (delimiter == delimiter) >>= fun _ =>
    (liftM (content.run? inner) : Parser α)) rest = _
  rw [check, if_pos (beq_self_eq_true delimiter), whole]
  rfl

theorem run_group_eq_some_iff {delimiter : Delimiter} {content : Parser α} {result : α} :
    StateT.run (group delimiter content) tokens = some (result, rest) ↔
      ∃ inner, tokens = .group delimiter inner :: rest ∧
        StateT.run content inner = some (result, []) := by
  constructor
  · intro run
    obtain ⟨token, more, ht, taken⟩ := run_bind_eq_some_iff.mp run
    obtain rfl := run_next_eq_some_iff.mp ht
    cases token with
    | group delimiter' inner =>
      obtain ⟨_, _, hc, read⟩ := run_bind_eq_some_iff.mp taken
      obtain ⟨same, rfl⟩ := run_check_eq_some_iff.mp hc
      obtain ⟨whole, rfl⟩ := run_liftM_eq_some_iff.mp read
      exact ⟨inner, by rw [beq_iff_eq.mp same], run?_eq_some_iff.mp whole⟩
    | _ => exact nomatch taken
  · rintro ⟨inner, rfl, read⟩
    exact run_group read

/-- Nothing is taken where a repetition stops at once. -/
theorem run_repeated_of_stop {stop : Parser Bool} (parser : Parser α)
    (stops : StateT.run stop tokens = some (true, tokens)) :
    StateT.run (repeated stop parser) tokens = some ([], tokens) := by
  rw [run_repeated, repeatUntil, run_bind_of_run stops]
  rfl

end Run

/-- A word that starts a path is no literal. -/
@[simp]
theorem run_literal_word {word : String} (h : Word.startsPath word = true) (rest : TokenStream) :
    StateT.run literal (.word word :: rest) = none := by
  have token : StateT.run Parser.next (.word word :: rest) = some (.word word, rest) := rfl
  rw [literal, run_bind_of_run token]
  split
  · next he => cases he
  · next he =>
    obtain rfl := TokenTree.word.inj he
    exact absurd h (by decide)
  · next he =>
    obtain rfl := TokenTree.word.inj he
    exact absurd h (by decide)
  · next he => cases he
  · rfl

/-! ### Taking tokens -/

/-- A parser takes tokens if `rest` stands behind them. -/
def Takes (parser : Parser α) (tokens rest : TokenStream) : Prop :=
  ∃ result, StateT.run parser (tokens ++ rest) = some (result, rest)

/-- A parser takes the tokens of an item of a list, if the list ends or goes on with a comma behind
it, and the item does not start with what ends the list. -/
def TakesItem (stop : Parser Bool) (item : Parser α) (rest tokens : TokenStream) : Prop :=
  ∀ after, (after = rest ∨ ∃ joint more, after = .punct ',' joint :: more) →
    StateT.run stop (tokens ++ after) = some (false, tokens ++ after) ∧ item.Takes tokens after

end Parser

/-- Tokens that are items with a comma between two of them, and perhaps one after the last. -/
inductive Listed (item : TokenStream → Prop) : TokenStream → Prop
  | nil : Listed item []
  | last {tokens} (h : item tokens) : Listed item tokens
  | cons {tokens others} (h : item tokens) (rest : Listed item others) :
      Listed item (tokens ++ TokenStream.symbol "," ++ others)

theorem Listed.imp {item item' : TokenStream → Prop} {tokens : TokenStream}
    (weaker : ∀ tokens, item tokens → item' tokens) (h : Listed item tokens) :
    Listed item' tokens := by
  induction h with
  | nil => exact .nil
  | last h => exact .last (weaker _ h)
  | cons h _ ih => exact .cons (weaker _ h) ih

namespace Parser

variable {stop : Parser Bool} {item : Parser α} {rest : TokenStream}

private theorem takes_separatedAtMost (stops : StateT.run stop rest = some (true, rest))
    (goes : ∀ joint more, StateT.run stop (.punct ',' joint :: more) =
      some (false, .punct ',' joint :: more))
    {tokens : TokenStream} (h : Listed (TakesItem stop item rest) tokens) {fuel : Nat}
    (enough : tokens.length ≤ fuel) :
    (separatedAtMost stop "," item (fuel + 1)).Takes tokens rest := by
  induction h generalizing fuel with
  | nil =>
    refine ⟨[], ?_⟩
    rw [List.nil_append, separatedAtMost, run_bind_of_run stops]
    rfl
  | last h =>
    obtain ⟨starts, first, hf⟩ := h rest (.inl rfl)
    refine ⟨[(first, false)], ?_⟩
    rw [separatedAtMost, run_bind_of_run starts]
    simp only [↓run_ite, Bool.false_eq_true, ↓reduceIte]
    rw [run_bind_of_run hf, run_bind_of_run stops]
    rfl
  | @cons tokens others h _ ih =>
    have length : others.length + 1 ≤ fuel := by
      simp [TokenStream.symbol, TokenStream.glued] at enough
      omega
    obtain ⟨fuel, rfl⟩ : ∃ fewer, fuel = fewer + 1 := ⟨fuel - 1, by omega⟩
    obtain ⟨items, hr⟩ := ih (Nat.le_of_succ_le_succ length)
    have comma : tokens ++ TokenStream.symbol "," ++ others ++ rest =
        tokens ++ (.punct ',' false :: (others ++ rest)) := by
      simp [TokenStream.symbol, TokenStream.glued]
    obtain ⟨starts, first, hf⟩ := h (.punct ',' false :: (others ++ rest)) (.inr ⟨_, _, rfl⟩)
    refine ⟨(first, true) :: items, ?_⟩
    rw [comma, separatedAtMost, run_bind_of_run starts]
    simp only [↓run_ite, Bool.false_eq_true, ↓reduceIte]
    rw [run_bind_of_run hf, run_bind_of_run (goes _ _)]
    simp only [↓run_ite, Bool.false_eq_true, ↓reduceIte]
    rw [run_symbol_bind rfl]
    change StateT.run (separatedAtMost stop "," item (fuel + 1) >>= _) (others ++ rest) = _
    rw [run_bind_of_run hr]
    rfl

/-- **A list is taken item by item.** -/
theorem takes_separated (stops : StateT.run stop rest = some (true, rest))
    (goes : ∀ joint more, StateT.run stop (.punct ',' joint :: more) =
      some (false, .punct ',' joint :: more))
    {tokens : TokenStream} (h : Listed (TakesItem stop item rest) tokens) :
    (separated stop "," item).Takes tokens rest := by
  have enough : tokens.length ≤ (tokens ++ rest).length := by
    rw [List.length_append]
    omega
  obtain ⟨items, hi⟩ := takes_separatedAtMost stops goes h enough
  exact ⟨items, hi⟩

end Parser

end KeyedCoding
