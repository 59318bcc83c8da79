import KeyedCoding.Proofs.Grammar.Running

/-!
# Reading paths from their tokens

A path is written as tokens segment by segment, and the rules read it again if each of its segments
may stand where it does: its name is a word for segments, its arguments are read one by one, and in
an expression `::` stands before them. The lifetimes among the arguments are written first.

In turn, the names of a path that has been read are words for segments, so that only its arguments
decide where it can be read again.

## Main definitions

* `Segment.IsReadable`, `Path.IsReadable`: what can be read in types or in expressions.
* `Path.extend`: a path with a further segment.
* `Parser.Gives`: all results of a parser have a property.

## Main results

* `Rules.takes_path`: a path is read from its tokens.
* `Path.isReadable_of_ofText?`: the names of a path that has been read are words for segments.
* `Path.IsReadable.of_fits`: where a path that has been read can be read again.
-/

namespace KeyedCoding

open KeyedCoding.Parser

/-! ### Arguments as a list -/

namespace PlacedArg

variable {item : TokenStream → Prop}

private theorem join_true {args : List PlacedArg} (ne : args ≠ []) :
    join true args = TokenStream.symbol "," ++ join false args := by
  cases args with
  | nil => exact absurd rfl ne
  | cons => simp [join]

/-- Commas are put where they lack. -/
private theorem listed_join {args : List PlacedArg} (h : ∀ arg ∈ args, item arg.tokens) :
    Listed item (join false args) := by
  induction args with
  | nil => exact .nil
  | cons arg rest ih =>
    obtain ⟨ha, hr⟩ := List.forall_mem_cons.mp h
    have others := ih hr
    cases comma : arg.comma with
    | true => simpa [join, comma] using Listed.cons ha others
    | false =>
      by_cases none : rest = []
      · simpa [join, comma, none] using Listed.last ha
      · simpa [join, comma, join_true none] using Listed.cons ha others

/-- Arguments of which none but the last lacks its comma are a list also when the lifetimes are put
in front. -/
theorem listed_arrange {args : List PlacedArg} (h : ∀ arg ∈ args, item arg.tokens)
    (commas : args.Pairwise fun arg _ => arg.comma = true) : Listed item (arrange args) := by
  have split (lifetimes others : List PlacedArg) (hl : ∀ arg ∈ lifetimes, item arg.tokens)
      (ho : ∀ arg ∈ others, item arg.tokens)
      (commas : lifetimes.Pairwise fun arg _ => arg.comma = true) :
      Listed item ((lifetimes.flatMap fun arg =>
          arg.tokens ++ if arg.comma then TokenStream.symbol "," else []) ++
        join ((lifetimes.getLast?.map fun arg => !arg.comma).getD false) others) := by
    induction lifetimes with
    | nil => exact listed_join ho
    | cons arg rest ih =>
      obtain ⟨ha, hr⟩ := List.forall_mem_cons.mp hl
      obtain ⟨hc, hp⟩ := List.pairwise_cons.mp commas
      have after := ih hr hp
      cases rest with
      | nil =>
        cases comma : arg.comma with
        | true => simpa [comma] using Listed.cons ha (listed_join ho)
        | false =>
          by_cases none : others = []
          · simpa [comma, none, join] using Listed.last ha
          · simpa [comma, join_true none] using Listed.cons ha (listed_join ho)
      | cons second others =>
        simpa [hc second List.mem_cons_self] using Listed.cons ha after
  rw [arrange, List.partition_eq_filter_filter]
  refine split _ _ (fun arg hm => h arg (List.mem_of_mem_filter hm))
    (fun arg hm => h arg (List.mem_of_mem_filter hm)) (commas.filter _)

end PlacedArg

/-- Every argument before the last one is placed with a comma. -/
private theorem GenericArg.pairwise_placed (trailing : Bool) (args : List GenericArg) :
    (placed trailing args).Pairwise fun arg _ => arg.comma = true := by
  induction args with
  | nil => simp [placed]
  | cons arg rest ih =>
    cases rest with
    | nil => simp [placed]
    | cons second others => simpa [placed] using ih

private theorem GenericArg.tokens_of_mem_placed {trailing : Bool} {args : List GenericArg}
    {placedArg : PlacedArg} (h : placedArg ∈ placed trailing args) :
    ∃ arg ∈ args, placedArg.tokens = arg.tokens := by
  induction args with
  | nil => simp [placed] at h
  | cons arg rest ih =>
    cases rest with
    | nil =>
      simp only [placed, List.mem_singleton] at h
      exact ⟨arg, List.mem_cons_self, by rw [h]⟩
    | cons second others =>
      have hm : placedArg = ⟨arg.isLifetime, arg.tokens, true⟩ ∨
          placedArg ∈ placed trailing (second :: others) := by
        simpa [placed] using h
      rcases hm with rfl | hm
      · exact ⟨arg, List.mem_cons_self, rfl⟩
      · obtain ⟨other, ho, he⟩ := ih hm
        exact ⟨other, List.mem_cons_of_mem _ ho, he⟩

theorem GenericArg.listed_arrange_placed {item : TokenStream → Prop} {args : List GenericArg}
    (h : ∀ arg ∈ args, item arg.tokens) (trailing : Bool) :
    Listed item (PlacedArg.arrange (placed trailing args)) := by
  refine PlacedArg.listed_arrange (fun placedArg hm => ?_) (pairwise_placed trailing args)
  obtain ⟨arg, ha, he⟩ := tokens_of_mem_placed hm
  exact he ▸ h arg ha

/-! ### Segments -/

namespace Segment

/-- A segment can be read in a style: its words may stand there, and its arguments are of a kind. In
an expression `::` must stand before the arguments. -/
def IsReadable (style : PathStyle) (isArg : TokenStream → Prop) : Segment → Prop
  | plain name => Word.isIdent name = true ∨ name = "Self" ∨ name ∈ Rules.keywordSegments
  | applied name turbofish args _ =>
    (Word.isIdent name = true ∨ name = "Self") ∧ (style = .inType ∨ turbofish = true) ∧
      ∀ arg ∈ args, isArg arg.tokens

/-- Whether `::` stands before the arguments of a segment, if it has any. -/
def isTurbofished : Segment → Bool
  | plain _ => true
  | applied _ turbofish _ _ => turbofish

/-- The arguments of a segment. -/
def args : Segment → List GenericArg
  | plain _ => []
  | applied _ _ args _ => args

/-- A segment that has been read can be read in any style and with any arguments that suit it. -/
theorem IsReadable.of_fits {segment : Segment} {style : PathStyle} {isArg : TokenStream → Prop}
    (words : segment.IsReadable .inType fun _ => True)
    (fits : style = .inType ∨ segment.isTurbofished = true)
    (hargs : ∀ arg ∈ segment.args, isArg arg.tokens) : segment.IsReadable style isArg := by
  cases segment with
  | plain name => exact words
  | applied name turbofish args trailing => exact ⟨words.1, fits, hargs⟩

theorem tokens_applied (name : String) (turbofish : Bool) (args : List GenericArg)
    (trailing : Bool) : (applied name turbofish args trailing).tokens =
      .word name :: ((if turbofish then TokenStream.symbol "::" else []) ++
        TokenStream.symbol "<" ++ PlacedArg.arrange (GenericArg.placed trailing args) ++
        TokenStream.symbol ">") := by
  simp [tokens]

theorem tokens_eq_cons (segment : Segment) :
    ∃ more, segment.tokens = .word segment.name :: more := by
  cases segment with
  | plain name => exact ⟨[], by rw [tokens, Segment.name]⟩
  | applied name turbofish args trailing => exact ⟨_, tokens_applied name turbofish args trailing⟩

/-- Only the keyword `try` does not start a path in spite of being a segment. -/
theorem IsReadable.eq_try_or_startsPath {segment : Segment} {style : PathStyle}
    {isArg : TokenStream → Prop} (readable : segment.IsReadable style isArg) :
    segment = .plain "try" ∨ Word.startsPath segment.name = true := by
  cases segment with
  | plain name =>
    rcases readable with ident | rfl | keyword
    · exact .inr (Word.startsPath_of_isIdent ident)
    · exact .inr (by decide : Word.startsPath "Self" = true)
    · simp only [Rules.keywordSegments, List.mem_cons, List.not_mem_nil, or_false] at keyword
      rcases keyword with rfl | rfl | rfl | rfl
      · exact .inr (by decide : Word.startsPath "super" = true)
      · exact .inr (by decide : Word.startsPath "self" = true)
      · exact .inr (by decide : Word.startsPath "crate" = true)
      · exact .inl rfl
  | applied name turbofish args trailing =>
    rcases readable.1 with ident | rfl
    · exact .inr (Word.startsPath_of_isIdent ident)
    · exact .inr (by decide : Word.startsPath "Self" = true)

end Segment

namespace Rules

variable {rules : Rules} {style : PathStyle} {rest : TokenStream}

/-- Tokens are taken as an argument in a list in angle brackets. -/
def TakesArg (rules : Rules) (tokens : TokenStream) : Prop :=
  ∀ more, TakesItem (peekSymbol ">") rules.genericArg (.punct '>' false :: more) tokens

/-- What stands behind a segment without arguments does not start any. -/
structure EndsSegment (rest : TokenStream) : Prop where
  noAngle : startsWithSymbol ['<'] rest = false
  noTurbofish : startsWithSymbol [':', ':'] rest = true →
    startsWithSymbol ['<'] (rest.drop 2) = false

private theorem takes_plain {name : String}
    (word : Word.isIdent name = true ∨ name = "Self" ∨ name ∈ Rules.keywordSegments)
    (ends : EndsSegment rest) : (rules.segment style).Takes [.word name] rest := by
  refine ⟨.plain name, ?_⟩
  obtain ⟨noAngle, noTurbofish⟩ := ends
  change StateT.run (rules.segment style) (.word name :: rest) = some (.plain name, rest)
  rw [segment]
  rcases word with ident | rfl | keyword
  · simp (disch := first | assumption | decide) [keywordSegments, ident, noAngle]
    exact fun colons angle => absurd (noTurbofish colons) (by simp [angle])
  · simp [keywordSegments, noAngle]
    exact fun colons angle => absurd (noTurbofish colons) (by simp [angle])
  · simp [keyword]

private theorem takes_applied {name : String} {turbofish : Bool} {args : TokenStream}
    (word : Word.isIdent name = true ∨ name = "Self") (fits : style = .inType ∨ turbofish = true)
    (listed : Listed rules.TakesArg args) : (rules.segment style).Takes
      (.word name :: ((if turbofish then TokenStream.symbol "::" else []) ++
        TokenStream.symbol "<" ++ args ++ TokenStream.symbol ">")) rest := by
  have closed : (separated (peekSymbol ">") "," rules.genericArg).Takes args
      (.punct '>' false :: rest) :=
    takes_separated rfl (fun _ _ => rfl) (listed.imp fun tokens h => h rest)
  obtain ⟨items, hi⟩ := closed
  refine ⟨.applied name turbofish (items.map (·.1)) ((items.getLast?.map (·.2)).getD false), ?_⟩
  have noKeyword : name ∉ keywordSegments := by
    rcases word with ident | rfl
    · simp (disch := first | assumption | decide) [keywordSegments]
    · decide
  have closing : StateT.run (symbol ">") (.punct '>' false :: rest) =
      some (TokenStream.symbol ">", rest) := rfl
  have source : .word name :: ((if turbofish then TokenStream.symbol "::" else []) ++
        TokenStream.symbol "<" ++ args ++ TokenStream.symbol ">") ++ rest =
      .word name :: ((if turbofish then TokenStream.symbol "::" else []) ++
        .punct '<' false :: (args ++ .punct '>' false :: rest)) := by
    simp [TokenStream.symbol, TokenStream.glued]
  rw [source, segment]
  cases turbofish with
  | true =>
    simp [noKeyword, word.symm, startsWithSymbol, TokenStream.symbol, TokenStream.glued, hi,
      closing]
  | false =>
    have style : style = .inType := by simpa using fits
    simp [noKeyword, word.symm, startsWithSymbol, style, hi, closing]

/-- A segment is read from its tokens. -/
theorem takes_segment {segment : Segment} (readable : segment.IsReadable style rules.TakesArg)
    (ends : EndsSegment rest) : (rules.segment style).Takes segment.tokens rest := by
  cases segment with
  | plain name =>
    rw [Segment.tokens]
    exact takes_plain readable ends
  | applied name turbofish args trailing =>
    obtain ⟨word, fits, hargs⟩ := readable
    rw [Segment.tokens_applied]
    exact takes_applied word fits (GenericArg.listed_arrange_placed hargs trailing)

end Rules

/-! ### Paths -/

namespace Segment

/-- The tokens of segments, each with `::` in front of it. -/
def restTokens (segments : List Segment) : TokenStream :=
  segments.flatMap fun segment => TokenStream.symbol "::" ++ segment.tokens

theorem length_le_restTokens (segments : List Segment) :
    segments.length ≤ (restTokens segments).length := by
  induction segments with
  | nil => exact Nat.le_refl _
  | cons segment segments ih =>
    rw [restTokens, List.flatMap_cons, List.length_append, List.length_cons]
    rw [restTokens] at ih
    have colons : (TokenStream.symbol "::" ++ segment.tokens).length ≥ 1 := by
      simp [TokenStream.symbol, TokenStream.glued]
    omega

theorem pathTokens_cons (segment : Segment) (segments : List Segment) :
    pathTokens (segment :: segments) = segment.tokens ++ restTokens segments := by
  induction segments generalizing segment with
  | nil => simp [pathTokens, restTokens]
  | cons next rest ih =>
    rw [pathTokens, ih next, restTokens, restTokens, List.flatMap_cons, List.append_assoc,
      List.append_assoc]
    simp

end Segment

/-- A path can be read in a style if each of its segments can. -/
structure Path.IsReadable (path : Path) (style : PathStyle) (isArg : TokenStream → Prop) :
    Prop where
  ne : path.segments ≠ []
  segments : ∀ segment ∈ path.segments, segment.IsReadable style isArg

namespace Path

/-- A path with a further segment. -/
def extend (path : Path) (segment : Segment) : Path := ⟨path.leading, path.segments ++ [segment]⟩

theorem tokens_extend {path : Path} (ne : path.segments ≠ []) (segment : Segment) :
    (path.extend segment).tokens = path.tokens ++ TokenStream.symbol "::" ++ segment.tokens := by
  obtain ⟨leading, segments⟩ := path
  obtain ⟨first, rest, rfl⟩ := List.exists_cons_of_ne_nil ne
  cases leading <;>
    simp [extend, Path.tokens, Ty.tokens, Segment.pathTokens_cons, Segment.restTokens]

variable {path : Path} {style : PathStyle} {isArg : TokenStream → Prop}

theorem IsReadable.extend (readable : path.IsReadable style isArg) (segment : Segment)
    (h : segment.IsReadable style isArg) : (path.extend segment).IsReadable style isArg := by
  refine ⟨by simp [Path.extend], fun other hm => ?_⟩
  rcases List.mem_append.mp hm with hm | hm
  · exact readable.segments other hm
  · exact List.mem_singleton.mp hm ▸ h

/-- A path that has been read can be read in any style and with any arguments that suit it. -/
theorem IsReadable.of_fits (words : path.IsReadable .inType fun _ => True)
    (fits : style = .inType ∨ ∀ segment ∈ path.segments, segment.isTurbofished = true)
    (hargs : ∀ segment ∈ path.segments, ∀ arg ∈ segment.args, isArg arg.tokens) :
    path.IsReadable style isArg :=
  ⟨words.ne, fun segment hs => (words.segments segment hs).of_fits
    (fits.imp_right fun turbofished => turbofished segment hs) (hargs segment hs)⟩

end Path

namespace Rules

variable {rules : Rules} {style : PathStyle} {rest : TokenStream}

/-- What stands behind a path does not go on with it. -/
structure EndsPath (rest : TokenStream) : Prop where
  noAngle : startsWithSymbol ['<'] rest = false
  noColon : startsWithSymbol [':'] rest = false

theorem EndsPath.noColons (ends : EndsPath rest) : startsWithSymbol [':', ':'] rest = false := by
  rw [← Bool.not_eq_true]
  exact fun colons => absurd (startsWithSymbol_cons colons) (by simp [ends.noColon])

theorem EndsPath.endsSegment (ends : EndsPath rest) (segments : List Segment) :
    EndsSegment (Segment.restTokens segments ++ rest) := by
  cases segments with
  | nil =>
    rw [Segment.restTokens, List.flatMap_nil, List.nil_append]
    exact ⟨ends.noAngle, fun colons => absurd colons (by simp [ends.noColons])⟩
  | cons segment segments =>
    obtain ⟨more, tokens⟩ := segment.tokens_eq_cons
    refine ⟨?_, fun _ => ?_⟩ <;>
      simp [Segment.restTokens, tokens, TokenStream.symbol, TokenStream.glued, startsWithSymbol]

private theorem takes_moreSegments (ends : EndsPath rest) {segments : List Segment}
    (readable : ∀ segment ∈ segments, segment.IsReadable style rules.TakesArg) {fuel : Nat}
    (enough : segments.length ≤ fuel) :
    (rules.moreSegments style fuel).Takes (Segment.restTokens segments) rest := by
  induction segments generalizing fuel with
  | nil =>
    refine ⟨[], ?_⟩
    cases fuel with
    | zero => rfl
    | succ fuel =>
      rw [moreSegments]
      simp [Segment.restTokens, ends.noColons]
  | cons segment segments ih =>
    obtain ⟨fuel, rfl⟩ : ∃ fewer, fuel = fewer + 1 := ⟨fuel - 1, by simp at enough; omega⟩
    obtain ⟨first, hf⟩ := takes_segment (readable segment List.mem_cons_self)
      (ends.endsSegment segments)
    obtain ⟨others, ho⟩ := ih (fun other hm => readable other (List.mem_cons_of_mem _ hm))
      (Nat.le_of_succ_le_succ enough)
    refine ⟨first :: others, ?_⟩
    obtain ⟨more, tokens⟩ := segment.tokens_eq_cons
    have source : Segment.restTokens (segment :: segments) ++ rest = .punct ':' true ::
        .punct ':' false :: (segment.tokens ++ (Segment.restTokens segments ++ rest)) := by
      simp [Segment.restTokens, TokenStream.symbol, TokenStream.glued]
    rw [source, moreSegments]
    rw [tokens, List.cons_append] at hf ⊢
    simp [startsWithSymbol, hf, ho]

/-- **A path is read from its tokens.** Each of its segments can be read, and what follows does not
go on with it. -/
theorem takes_path {path : Path} (readable : path.IsReadable style rules.TakesArg)
    (ends : EndsPath rest) : (rules.path style).Takes path.tokens rest := by
  obtain ⟨leading, segments⟩ := path
  obtain ⟨ne, hsegments⟩ := readable
  obtain ⟨segment, segments, rfl⟩ := List.exists_cons_of_ne_nil ne
  obtain ⟨hs, hr⟩ := List.forall_mem_cons.mp hsegments
  obtain ⟨first, hf⟩ := takes_segment hs (ends.endsSegment segments)
  have enough : segments.length ≤ (Segment.restTokens segments ++ rest).length :=
    Nat.le_trans (Segment.length_le_restTokens segments) (by simp)
  obtain ⟨others, ho⟩ := takes_moreSegments ends hr enough
  obtain ⟨more, tokens⟩ := segment.tokens_eq_cons
  refine ⟨⟨leading, first :: others⟩, ?_⟩
  have source : Path.tokens ⟨leading, segment :: segments⟩ ++ rest =
      (if leading then TokenStream.symbol "::" else []) ++
        (segment.tokens ++ (Segment.restTokens segments ++ rest)) := by
    simp [Path.tokens, Ty.tokens, Segment.pathTokens_cons]
  rw [source, path]
  generalize Segment.restTokens segments ++ rest = after at hf ho ⊢
  rw [tokens, List.cons_append] at hf ⊢
  cases leading with
  | true => simp [startsWithSymbol, TokenStream.symbol, TokenStream.glued, hf, ho]
  | false => simp [startsWithSymbol, hf, ho]

end Rules

/-! ### Paths that have been read -/

namespace Parser

variable {α β : Type}

/-- All results of a parser have a property. -/
def Gives (parser : Parser α) (property : α → Prop) : Prop :=
  ∀ tokens result rest, StateT.run parser tokens = some (result, rest) → property result

variable {property : α → Prop} {property' : β → Prop}

theorem Gives.pure {result : α} (h : property result) : Gives (pure result) property := by
  intro tokens result' rest run
  cases run
  exact h

theorem Gives.bind {parser : Parser α} {next : α → Parser β} (first : Gives parser property)
    (second : ∀ result, property result → Gives (next result) property') :
    Gives (parser >>= next) property' := by
  intro tokens result rest run
  obtain ⟨between, middle, hf, hs⟩ := run_bind_eq_some_iff.mp run
  exact second between (first _ _ _ hf) _ _ _ hs

/-- Whatever the first parser gives, the second one gives results with the property. -/
theorem Gives.after {parser : Parser α} {next : α → Parser β}
    (second : ∀ result, Gives (next result) property') : Gives (parser >>= next) property' := by
  have first : Gives parser fun _ => True := fun _ _ _ _ => trivial
  exact first.bind fun result _ => second result

theorem Gives.ite {condition : Prop} [Decidable condition] {first second : Parser α}
    (hf : Gives first property) (hs : Gives second property) :
    Gives (if condition then first else second) property := by
  split
  · exact hf
  · exact hs

theorem gives_wordWhere (test : String → Bool) : Gives (wordWhere test) (test · = true) :=
  fun _ _ _ run => (run_wordWhere_eq_some_iff.mp run).2

end Parser

namespace Rules

variable (rules : Rules) (style : PathStyle)

/-- The words of a segment that has been read may stand there. -/
theorem gives_segment :
    Gives (rules.segment style) fun segment => segment.IsReadable .inType fun _ => True := by
  rw [segment]
  refine .after fun keyword => .ite ?_ ?_
  · refine .bind (gives_wordWhere _) fun name word => .pure ?_
    exact .inr (.inr (List.contains_iff_mem.mp word))
  · refine .bind (gives_wordWhere _) fun name word => ?_
    have word : Word.isIdent name = true ∨ name = "Self" := by simpa [or_comm] using word
    refine .after fun _ => .after fun _ => .after fun _ => .after fun _ => .after fun _ => ?_
    refine .ite ?_ ?_
    · refine .after fun _ => .after fun _ => .after fun _ => .after fun _ => .pure ?_
      exact ⟨word, .inl rfl, fun _ _ => trivial⟩
    · exact .pure (word.imp_right .inl)

theorem gives_moreSegments (fuel : Nat) : Gives (rules.moreSegments style fuel) fun segments =>
    ∀ segment ∈ segments, segment.IsReadable .inType fun _ => True := by
  induction fuel with
  | zero => exact .pure (by simp)
  | succ fuel ih =>
    rw [moreSegments]
    refine .after fun _ => .after fun _ => .ite ?_ (.pure (by simp))
    refine .after fun _ => .bind (gives_segment rules style) fun segment hs => ?_
    exact .bind ih fun segments hr => .pure (List.forall_mem_cons.mpr ⟨hs, hr⟩)

theorem gives_path : Gives (rules.path style) fun path =>
    path.IsReadable .inType fun _ => True := by
  rw [path]
  refine .after fun _ => .bind (gives_segment rules style) fun segment hs => .after fun _ => ?_
  refine .bind (gives_moreSegments rules style _) fun segments hr => .pure ?_
  exact ⟨List.cons_ne_nil _ _, List.forall_mem_cons.mpr ⟨hs, hr⟩⟩

end Rules

/-- The words of a path that a text spells may stand there. -/
theorem Path.isReadable_of_ofText? {source : String} {path : Path}
    (h : ofText? source = some path) : path.IsReadable .inType fun _ => True := by
  obtain ⟨tokens, -, read⟩ := Option.bind_eq_some_iff.mp h
  exact Rules.gives_path _ _ _ _ _ (run?_eq_some_iff.mp read)

end KeyedCoding
