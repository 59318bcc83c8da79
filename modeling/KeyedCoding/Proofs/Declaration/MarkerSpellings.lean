import KeyedCoding.Declaration.Marker
import KeyedCoding.Proofs.Grammar.LiteralExprs
import KeyedCoding.Proofs.Grammar.WordPaths

/-!
# How markers are written

A marker can be written as an attribute in several ways: with its arguments in any brackets, with
a comma after the last one or without, a single argument also after `=`, and no arguments as the
path alone. All spellings with the same path and the same arguments give the same marker, and no
other attribute gives one.

## Main definitions

* `Literal.IsWritten`, `Literal.AreListed`: tokens are a literal, or a list of literals.
* `Attribute.ofTokens?`: the attribute that tokens spell.
* `Marker.Spells`: tokens are a spelling of a marker.

## Main results

* `Marker.readArgs_eq_ok_iff`: which tokens are read as the literals of a list.
* `Marker.exists_ofTokens?_iff`: which tokens give a marker.
* `Marker.spellings_agree`: the marker does not depend on its spelling.
-/

namespace KeyedCoding

open KeyedCoding.Parser

/-! ### Literals and lists of them -/

namespace Literal

/-- Tokens are a literal: a literal token, a truth value, or a number after a minus sign. -/
inductive IsWritten : Literal → TokenStream → Prop
  | token {spelling : String} {value : Literal} (h : ofSpelling? spelling = some value) :
      IsWritten value [.literal spelling]
  | boolean (holds : Bool) :
      IsWritten ⟨false, toString holds, .boolean holds⟩ [.word (toString holds)]
  | negative {spelling : String} {value : Literal} (joint : Bool)
      (h : ofSpelling? spelling = some value) (number : value.isNumber = true) :
      IsWritten { value with negative := true } [.punct '-' joint, .literal spelling]

/-- Tokens are literals with a comma between two of them, and perhaps one after the last. -/
inductive AreListed : List Literal → TokenStream → Prop
  | nil : AreListed [] []
  | last {value : Literal} {tokens : TokenStream} (h : IsWritten value tokens) :
      AreListed [value] tokens
  | cons {value : Literal} {values : List Literal} {tokens others : TokenStream} (joint : Bool)
      (h : IsWritten value tokens) (rest : AreListed values others) :
      AreListed (value :: values) (tokens ++ .punct ',' joint :: others)

variable {value : Literal} {values : List Literal} {tokens rest : TokenStream}

theorem IsWritten.ne_nil (h : IsWritten value tokens) : tokens ≠ [] := by
  cases h <;> exact List.cons_ne_nil _ _

/-- A literal is read from its tokens, and from no others. -/
theorem run_literal_eq_some_iff : StateT.run Parser.literal tokens = some (value, rest) ↔
    ∃ front, tokens = front ++ rest ∧ IsWritten value front := by
  constructor
  · intro run
    obtain ⟨first, _, hf, branch⟩ := run_bind_eq_some_iff.mp run
    obtain rfl := run_next_eq_some_iff.mp hf
    split at branch
    · next spelling =>
      obtain ⟨h, rfl⟩ := run_liftM_eq_some_iff.mp branch
      exact ⟨[.literal spelling], rfl, .token h⟩
    · cases branch
      exact ⟨[.word "true"], rfl, .boolean true⟩
    · cases branch
      exact ⟨[.word "false"], rfl, .boolean false⟩
    · next joint =>
      obtain ⟨second, _, hs, signed⟩ := run_bind_eq_some_iff.mp branch
      obtain rfl := run_next_eq_some_iff.mp hs
      split at signed
      · next spelling =>
        obtain ⟨read, _, hr, checked⟩ := run_bind_eq_some_iff.mp signed
        obtain ⟨_, _, hc, given⟩ := run_bind_eq_some_iff.mp checked
        obtain ⟨h, rfl⟩ := run_liftM_eq_some_iff.mp hr
        obtain ⟨number, rfl⟩ := run_check_eq_some_iff.mp hc
        cases given
        exact ⟨[.punct '-' joint, .literal spelling], rfl, .negative joint h number⟩
      · exact nomatch signed
    · exact nomatch branch
  · rintro ⟨front, rfl, h⟩
    cases h with
    | token h => exact run_liftM_eq_some_iff.mpr ⟨h, rfl⟩
    | boolean holds => cases holds <;> rfl
    | @negative spelling value joint h number =>
      have read : StateT.run (liftM (ofSpelling? spelling) : Parser Literal) rest =
          some (value, rest) := run_liftM_eq_some_iff.mpr ⟨h, rfl⟩
      have checked : StateT.run (check value.isNumber) rest = some ((), rest) :=
        run_check_eq_some_iff.mpr ⟨number, rfl⟩
      exact run_bind_eq_some_iff.mpr ⟨.punct '-' joint, .literal spelling :: rest, rfl,
        run_bind_eq_some_iff.mpr ⟨.literal spelling, rest, rfl,
          run_bind_eq_some_iff.mpr ⟨value, rest, read,
            run_bind_eq_some_iff.mpr ⟨(), rest, checked, rfl⟩⟩⟩⟩

theorem run?_literal_eq_some_iff : Parser.literal.run? tokens = some value ↔
    IsWritten value tokens := by
  rw [run?_eq_some_iff, run_literal_eq_some_iff]
  simp only [List.append_nil, exists_eq_left']

end Literal

namespace Marker

variable {values : List Literal} {tokens : TokenStream}

/-- Every literal takes a token, so that the steps suffice. -/
private theorem readArgsAtMost_of_areListed (h : Literal.AreListed values tokens) {fuel : Nat}
    (enough : tokens.length < fuel) : readArgsAtMost fuel tokens = .ok values := by
  induction h generalizing fuel with
  | nil =>
    obtain ⟨fuel, rfl⟩ := Nat.exists_eq_succ_of_ne_zero (Nat.ne_zero_of_lt enough)
    rfl
  | @last value tokens h =>
    obtain ⟨fuel, rfl⟩ := Nat.exists_eq_succ_of_ne_zero (Nat.ne_zero_of_lt enough)
    have run := run?_eq_some_iff.mp (Literal.run?_literal_eq_some_iff.mpr h)
    obtain ⟨token, more, rfl⟩ := List.exists_cons_of_ne_nil h.ne_nil
    rw [readArgsAtMost, run]
    · exact List.cons_ne_nil _ _
  | @cons value values tokens others joint h _ ih =>
    obtain ⟨fuel, rfl⟩ := Nat.exists_eq_succ_of_ne_zero (Nat.ne_zero_of_lt enough)
    have run : StateT.run literal (tokens ++ .punct ',' joint :: others) =
        some (value, .punct ',' joint :: others) :=
      Literal.run_literal_eq_some_iff.mpr ⟨tokens, rfl, h⟩
    have after : readArgsAtMost fuel others = .ok values := by
      refine ih ?_
      rw [List.length_append, List.length_cons] at enough
      omega
    rw [readArgsAtMost, run]
    · change (readArgsAtMost fuel others).map (value :: ·) = _
      rw [after]
      rfl
    · simp

private theorem areListed_of_readArgsAtMost {fuel : Nat}
    (h : readArgsAtMost fuel tokens = .ok values) : Literal.AreListed values tokens := by
  fun_induction readArgsAtMost fuel tokens generalizing values with
  | case1 => exact nomatch h
  | case2 => cases h; exact .nil
  | case3 => exact nomatch h
  | case4 fuel tokens _ value run =>
    cases h
    exact .last (Literal.run?_literal_eq_some_iff.mp (run?_eq_some_iff.mpr run))
  | case5 fuel tokens _ value joint others run ih =>
    obtain ⟨front, rfl, written⟩ := Literal.run_literal_eq_some_iff.mp run
    cases after : readArgsAtMost fuel others with
    | error => rw [after] at h; exact nomatch h
    | ok values =>
      rw [after] at h
      cases h
      exact .cons joint written (ih after)
  | case6 => exact nomatch h

/-- Exactly the lists of literals are read. -/
theorem readArgs_eq_ok_iff : readArgs tokens = .ok values ↔ Literal.AreListed values tokens :=
  ⟨areListed_of_readArgsAtMost, fun h => readArgsAtMost_of_areListed h (Nat.lt_succ_self _)⟩

end Marker

/-! ### Attributes -/

namespace Attribute

/-- The attribute that tokens spell, with its brackets. -/
def ofTokens? (tokens : TokenStream) : Option Attribute :=
  let parser : Parser Attribute := do
    let _ ← symbol "#"
    group .bracket (Rules.forTokens tokens).attributeContent
  parser.run? tokens

theorem ofText?_eq (source : String) :
    ofText? source = (TokenStream.ofText? source).bind ofTokens? := rfl

/-- Tokens are the path of an attribute: words that may start a path, or the keyword `unsafe`. -/
structure IsPath (leading : Bool) (words : List String) (tokens : TokenStream) : Prop where
  spells : Path.Spells leading words tokens
  words : (∀ word ∈ words, Word.startsPath word = true) ∨ leading = false ∧ words = ["unsafe"]

variable {leading : Bool} {words : List String} {tokens front rest : TokenStream}

/-- The path of an attribute is read from its tokens. -/
theorem IsPath.run (h : IsPath leading words front)
    (noColons : startsWithSymbol [':', ':'] rest = false) :
    StateT.run Rules.attributePath (front ++ rest) = some (.ofWords leading words, rest) := by
  obtain ⟨spells, starts | ⟨rfl, rfl⟩⟩ := h
  · have read := Rules.run_wordPath spells starts noColons
    rw [Rules.attributePath, run_peekKeyword_bind, run_ite, if_neg]
    · exact read
    cases spells with
    | @plain others tokens word _ =>
      have other : word ≠ "unsafe" := by
        rintro rfl
        exact absurd (starts _ List.mem_cons_self) (by decide)
      simpa using other
    | rooted ne spells =>
      cases spells with
      | nil => exact absurd rfl ne
      | cons joint word spells => simp
  · obtain rfl : front = [.word "unsafe"] := by
      cases spells with
      | plain word spells =>
        cases spells
        rfl
    rfl

/-- What is read as the path of an attribute are its tokens. -/
theorem exists_isPath_of_run {path : Path}
    (run : StateT.run Rules.attributePath tokens = some (path, rest)) :
    ∃ leading words front, path = .ofWords leading words ∧ tokens = front ++ rest ∧
      IsPath leading words front := by
  obtain ⟨keyword, _, hk, read⟩ := run_bind_eq_some_iff.mp run
  obtain ⟨hk, rfl⟩ := Prod.mk.inj (Option.some.inj ((run_peekKeyword _ _).symm.trans hk))
  cases keyword with
  | true =>
    obtain ⟨word, _, hw, given⟩ := run_bind_eq_some_iff.mp read
    obtain ⟨rfl, -⟩ := run_wordWhere_eq_some_iff.mp hw
    cases given
    obtain rfl : word = "unsafe" := by simpa using hk
    exact ⟨false, ["unsafe"], [.word "unsafe"], rfl, rfl, .plain _ .nil, .inr ⟨rfl, rfl⟩⟩
  | false =>
    obtain ⟨leading, words, front, rfl, rfl, spells, starts⟩ :=
      Rules.exists_spells_of_run_wordPath read
    exact ⟨leading, words, front, rfl, rfl, spells, .inl starts⟩

/-- An attribute has its content in square brackets behind `#`. -/
theorem ofTokens?_eq_some_iff {attr : Attribute} : ofTokens? tokens = some attr ↔
    ∃ joint content, tokens = [.punct '#' joint, .group .bracket content] ∧
      StateT.run (Rules.forTokens tokens).attributeContent content = some (attr, []) := by
  rw [ofTokens?, run?_eq_some_iff]
  constructor
  · intro run
    obtain ⟨_, _, hs, hg⟩ := run_bind_eq_some_iff.mp run
    obtain ⟨mark, -, rfl⟩ := run_symbol_eq_some_iff.mp hs
    obtain ⟨joint, more, rfl⟩ := startsWithSymbol_singleton_iff.mp mark
    obtain ⟨content, rfl, read⟩ := run_group_eq_some_iff.mp hg
    exact ⟨joint, content, rfl, read⟩
  · rintro ⟨joint, content, rfl, read⟩
    rw [run_symbol_bind rfl]
    exact run_group read

end Attribute

/-! ### Spellings -/

namespace Marker

/-- Tokens behind the path of an attribute are the arguments of a marker: none at all, a list in
brackets of any shape, or a single literal after `=`. -/
inductive SpellsArgs : List Literal → TokenStream → Prop
  | bare : SpellsArgs [] []
  | list {args : List Literal} {content : TokenStream} {delimiter : Delimiter}
      (visible : delimiter ≠ .invisible) (h : Literal.AreListed args content) :
      SpellsArgs args [.group delimiter content]
  | assigned {arg : Literal} {tokens : TokenStream} (joint : Bool) (h : arg.IsWritten tokens) :
      SpellsArgs [arg] (.punct '=' joint :: tokens)

/-- Tokens are an attribute for a marker with a path and arguments. -/
inductive Spells (leading : Bool) (words : List String) (args : List Literal) : TokenStream → Prop
  | intro {front back : TokenStream} (joint : Bool) (path : Attribute.IsPath leading words front)
      (h : SpellsArgs args back) :
      Spells leading words args [.punct '#' joint, .group .bracket (front ++ back)]

variable {args : List Literal} {path : Path} {back : TokenStream} {rules : Rules}
  {attr : Attribute} {marker : Marker}

theorem SpellsArgs.noColons (h : SpellsArgs args back) :
    startsWithSymbol [':', ':'] back = false := by
  cases h <;> rfl

private theorem run_attributeAfter_group {delimiter : Delimiter} (visible : delimiter ≠ .invisible)
    (content : TokenStream) :
    StateT.run (rules.attributeAfter path) (.group delimiter content :: back) =
      some (.list path delimiter content, back) := by
  rw [Rules.attributeAfter]
  cases delimiter <;> first | rfl | exact absurd rfl visible

private theorem run_attributeAfter_equals (joint : Bool) :
    StateT.run (rules.attributeAfter path) (.punct '=' joint :: back) =
      match literal.run? back with
      | some value => some (.assignment path (.literal value), [])
      | none => StateT.run (do
          check !((← peekSymbol "#") && (← peekGroup .bracket 1))
          return .assignment path (← rules.expr true)) back := by
  rw [Rules.attributeAfter]
  cases h : literal.run? back <;> simp [startsWithSymbol, h]

/-- The arguments of a marker are read from their tokens. -/
theorem SpellsArgs.exists_run (h : SpellsArgs args back) (rules : Rules) (path : Path) :
    ∃ attr, StateT.run (rules.attributeAfter path) back = some (attr, []) ∧
      ofAttribute attr = .ok ⟨path.text, args⟩ := by
  cases h with
  | bare => exact ⟨.path path, rfl, rfl⟩
  | @list args content delimiter visible listed =>
    refine ⟨.list path delimiter content, run_attributeAfter_group visible content, ?_⟩
    rw [ofAttribute, readArgs_eq_ok_iff.mpr listed]
    rfl
  | @assigned arg tokens joint written =>
    have read : literal.run? tokens = some arg := Literal.run?_literal_eq_some_iff.mpr written
    exact ⟨.assignment path (.literal arg), by rw [run_attributeAfter_equals, read], rfl⟩

private theorem run_attributeAfter_other {token : TokenTree}
    (noGroup : ∀ delimiter content, token = .group delimiter content → delimiter = .invisible)
    (noEquals : startsWithSymbol ['='] (token :: back) = false) :
    StateT.run (rules.attributeAfter path) (token :: back) = some (.path path, token :: back) := by
  have noGroup (delimiter : Delimiter) (visible : delimiter ≠ .invisible) :
      StateT.run (peekGroup delimiter) (token :: back) = some (false, token :: back) := by
    cases token with
    | group other content =>
      obtain rfl := noGroup other content rfl
      cases delimiter <;> first | rfl | exact absurd rfl visible
    | _ => rfl
  rw [Rules.attributeAfter, run_bind_of_run (noGroup .parenthesis (by decide)),
    run_bind_of_run (noGroup .bracket (by decide)), run_bind_of_run (noGroup .brace (by decide)),
    run_ite, if_neg (by decide), run_peekSymbol_bind, run_ite, if_neg]
  · rfl
  · exact Bool.eq_false_iff.mp noEquals

/-- An attribute with `=` is a marker only if a literal is assigned. -/
private theorem exists_of_run_equals (keep : rules.KeepLiterals) {joint : Bool}
    (run : StateT.run (rules.attributeAfter path) (.punct '=' joint :: back) = some (attr, []))
    (h : ofAttribute attr = .ok marker) :
    ∃ arg : Literal, marker = ⟨path.text, [arg]⟩ ∧ arg.IsWritten back := by
  rw [run_attributeAfter_equals] at run
  cases read : literal.run? back with
  | some value =>
    rw [read] at run
    obtain ⟨rfl, -⟩ := Prod.mk.inj (Option.some.inj run)
    exact ⟨value, (Except.ok.inj h).symm, Literal.run?_literal_eq_some_iff.mp read⟩
  | none =>
    rw [read] at run
    dsimp only at run
    rw [run_peekSymbol_bind, run_peekGroup_bind] at run
    obtain ⟨_, _, hc, run⟩ := run_bind_eq_some_iff.mp run
    obtain ⟨-, rfl⟩ := run_check_eq_some_iff.mp hc
    obtain ⟨expr, _, he, given⟩ := run_bind_eq_some_iff.mp run
    obtain ⟨rfl, rfl⟩ := Prod.mk.inj (Option.some.inj given)
    cases expr with
    | literal value =>
      -- The grammar reads a literal as the whole only where a literal is the whole.
      have same := run?_eq_some_iff.mpr (keep.expr true _ _ _ he)
      exact nomatch read.symm.trans same
    | compound => exact nomatch h

/-- Attributes for markers have arguments of markers behind their path. -/
theorem exists_spellsArgs_of_run (keep : rules.KeepLiterals)
    (run : StateT.run (rules.attributeAfter path) back = some (attr, []))
    (h : ofAttribute attr = .ok marker) :
    ∃ args, marker = ⟨path.text, args⟩ ∧ SpellsArgs args back := by
  cases back with
  | nil =>
    cases run
    exact ⟨[], (Except.ok.inj h).symm, .bare⟩
  | cons token more =>
    -- Behind the path stands `=`, or brackets, or else what no attribute has there.
    by_cases equals : startsWithSymbol ['='] (token :: more) = true
    · obtain ⟨joint, back, he⟩ := startsWithSymbol_singleton_iff.mp equals
      obtain ⟨rfl, rfl⟩ := List.cons.inj he
      obtain ⟨arg, rfl, written⟩ := exists_of_run_equals keep run h
      exact ⟨[arg], rfl, .assigned joint written⟩
    by_cases group : ∃ delimiter content, token = .group delimiter content ∧ delimiter ≠ .invisible
    · obtain ⟨delimiter, content, rfl, visible⟩ := group
      rw [run_attributeAfter_group visible] at run
      cases run
      rw [ofAttribute] at h
      cases read : readArgs content with
      | error => rw [read] at h; exact nomatch h
      | ok args =>
        rw [read] at h
        exact ⟨args, (Except.ok.inj h).symm, .list visible (readArgs_eq_ok_iff.mp read)⟩
    · have noGroup : ∀ delimiter content, token = .group delimiter content →
          delimiter = .invisible := by simpa using group
      rw [run_attributeAfter_other noGroup (Bool.eq_false_iff.mpr equals)] at run
      exact nomatch run

/-- Exactly the spellings of markers give markers. -/
theorem exists_ofTokens?_iff {tokens : TokenStream} :
    (∃ attr, Attribute.ofTokens? tokens = some attr ∧ ofAttribute attr = .ok marker) ↔
      ∃ leading words args, Spells leading words args tokens ∧
        marker = ⟨(Path.ofWords leading words).text, args⟩ := by
  constructor
  · rintro ⟨attr, ha, h⟩
    obtain ⟨joint, content, rfl, run⟩ := Attribute.ofTokens?_eq_some_iff.mp ha
    obtain ⟨path, back, hp, run⟩ := run_bind_eq_some_iff.mp run
    obtain ⟨leading, words, front, rfl, rfl, isPath⟩ := Attribute.exists_isPath_of_run hp
    obtain ⟨args, rfl, spells⟩ := exists_spellsArgs_of_run (Rules.keepLiterals_upTo _) run h
    exact ⟨leading, words, args, .intro joint isPath spells, rfl⟩
  · rintro ⟨leading, words, args, @⟨front, back, joint, isPath, spells⟩, rfl⟩
    obtain ⟨attr, run, h⟩ := spells.exists_run (Rules.forTokens _) (.ofWords leading words)
    have path := isPath.run spells.noColons
    exact ⟨attr, Attribute.ofTokens?_eq_some_iff.mpr
      ⟨joint, _, rfl, (run_bind_of_run path).trans run⟩, h⟩

/-- **All spellings of a marker agree.** A text gives a marker if and only if its tokens are an
attribute with a path of words and with arguments. The marker has these arguments in their order,
whatever brackets and commas they are written with. Its name is the words with `::` between them,
whether `::` stands in front of them or not, so that paths with the same name have the same words. -/
theorem spellings_agree :
    (∀ source marker,
      (∃ attr, Attribute.ofText? source = some attr ∧ ofAttribute attr = .ok marker) ↔
        ∃ tokens leading words args, TokenStream.ofText? source = some tokens ∧
          Spells leading words args tokens ∧ marker = ⟨(Path.ofWords leading words).text, args⟩) ∧
    (∀ leading words, words ≠ [] → (∀ word ∈ words, Word.IsSegment word) →
      (Path.ofWords leading words).text = "::".intercalate words) ∧
    ∀ leading leading' words words', words ≠ [] → words' ≠ [] →
      (∀ word ∈ words, Word.IsSegment word) → (∀ word ∈ words', Word.IsSegment word) →
        ((Path.ofWords leading words).text = (Path.ofWords leading' words').text ↔
          words = words') := by
  refine ⟨fun source marker => ?_,
    fun leading _ ne segments => Path.text_ofWords leading ne segments,
    fun _ _ _ _ ne ne' segments segments' => Path.text_ofWords_inj ne ne' segments segments'⟩
  constructor
  · rintro ⟨attr, ha, h⟩
    obtain ⟨tokens, ht, ha⟩ := Option.bind_eq_some_iff.mp (Attribute.ofText?_eq source ▸ ha)
    obtain ⟨leading, words, args, spells, rfl⟩ := exists_ofTokens?_iff.mp ⟨attr, ha, h⟩
    exact ⟨tokens, leading, words, args, ht, spells, rfl⟩
  · rintro ⟨tokens, leading, words, args, ht, spells, rfl⟩
    obtain ⟨attr, ha, h⟩ := exists_ofTokens?_iff.mpr ⟨leading, words, args, spells, rfl⟩
    exact ⟨attr, by rw [Attribute.ofText?_eq, ht, Option.bind_some, ha], h⟩

/-- The marker of `#[::codable::key("a", -1,)]`, whose name is that of `codable::key`. -/
theorem spellings_agree_signed :
    (∃ attr, Attribute.ofText? "#[::codable::key(\"a\", -1,)]" = some attr ∧
        ofAttribute attr =
          .ok ⟨"codable::key", [⟨false, "\"a\"", .text "a"⟩, ⟨true, "1", .integer 1⟩]⟩) ∧
      (Path.ofWords true ["codable", "key"]).text =
        (Path.ofWords false ["codable", "key"]).text := by
  obtain ⟨given, named, same⟩ := spellings_agree
  have segments : ∀ word ∈ ["codable", "key"], Word.IsSegment word :=
    List.forall_mem_cons.mpr ⟨.inl ⟨⟨false, "codable", by decide⟩, rfl⟩,
      List.forall_mem_singleton.mpr (.inl ⟨⟨false, "key", by decide⟩, rfl⟩)⟩
  have path : Attribute.IsPath true ["codable", "key"] [.punct ':' true, .punct ':' false,
      .word "codable", .punct ':' true, .punct ':' false, .word "key"] :=
    ⟨.rooted (List.cons_ne_nil _ _) (.cons false _ (.cons false _ .nil)), .inl (by decide)⟩
  have one : Literal.ofSpelling? "1" = some ⟨false, "1", .integer 1⟩ := by decide
  have args : Literal.AreListed [⟨false, "\"a\"", .text "a"⟩, ⟨true, "1", .integer 1⟩]
      [.literal "\"a\"", .punct ',' false, .punct '-' false, .literal "1", .punct ',' false] :=
    .cons false (.token (by decide)) (.cons false (.negative false one rfl) .nil)
  have visible : Delimiter.parenthesis ≠ .invisible := by decide
  have spells := Spells.intro false path (.list visible args)
  refine ⟨(given _ _).mpr ⟨_, true, ["codable", "key"], _, ?_, spells, ?_⟩, ?_⟩
  · rfl
  · rw [named true _ (List.cons_ne_nil _ _) segments]
    rfl
  · exact (same true false _ _ (List.cons_ne_nil _ _) (List.cons_ne_nil _ _) segments segments).mpr
      rfl

end Marker

end KeyedCoding
