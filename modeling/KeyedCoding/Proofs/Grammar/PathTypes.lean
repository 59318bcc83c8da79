import KeyedCoding.Proofs.Grammar.Paths

/-!
# Reading paths as types

A path stands for a type, and a type for an argument of another path. So that the arguments of a
path are arguments is all that it takes to read the path as a type or as an argument, with one
exception: the keyword `try` may be the first segment of a path, but no type starts with it.

The rules are cut off at a depth that grows with the number of tokens. An argument has fewer tokens
than the path that it belongs to, so that the depth suffices for it as well.

## Main definitions

* `TokenStream.IsArgument`: tokens that are read as an argument.
* `TokenStream.IsType`: tokens that are read as a type.
* `Path.startsWithTry`: a path that starts with the keyword `try`.
* `Ty.isNamed`: a type that is named by a path, with lifetimes and such types as its arguments.

## Main results

* `Path.countAll_lt`: an argument has fewer tokens than the path.
* `Path.IsReadable.isArgument`: a path is an argument if its arguments are.
* `Path.IsReadable.isType_iff`: which paths are types.
* `Ty.isArgument_of_isNamed`: types that paths name are arguments.
-/

namespace KeyedCoding

open KeyedCoding.Parser

/-! ### Counting tokens -/

namespace TokenTree

theorem countAll_append (first second : TokenStream) :
    countAll (first ++ second) = countAll first + countAll second := by
  induction first with
  | nil => simp [countAll]
  | cons token rest ih => rw [List.cons_append, countAll, countAll, ih, Nat.add_assoc]

theorem countAll_le_flatMap {α : Type} {items : List α} {item : α} (h : item ∈ items)
    (tokens : α → TokenStream) : countAll (tokens item) ≤ countAll (items.flatMap tokens) := by
  induction items with
  | nil => simp at h
  | cons first rest ih =>
    rw [List.flatMap_cons, countAll_append]
    rcases List.mem_cons.mp h with rfl | hr
    · exact Nat.le_add_right _ _
    · exact Nat.le_trans (ih hr) (Nat.le_add_left _ _)

end TokenTree

open TokenTree

private theorem PlacedArg.countAll_le_join {args : List PlacedArg} {arg : PlacedArg}
    (h : arg ∈ args) (needsComma : Bool) :
    countAll arg.tokens ≤ countAll (join needsComma args) := by
  induction args generalizing needsComma with
  | nil => simp at h
  | cons first rest ih =>
    simp only [join, countAll_append]
    rcases List.mem_cons.mp h with rfl | hr
    · omega
    · have := ih hr (!first.comma)
      omega

private theorem PlacedArg.countAll_le_arrange {args : List PlacedArg} {arg : PlacedArg}
    (h : arg ∈ args) : countAll arg.tokens ≤ countAll (arrange args) := by
  rw [arrange, List.partition_eq_filter_filter, countAll_append]
  cases lifetime : arg.isLifetime with
  | true =>
    have hm : arg ∈ args.filter (·.isLifetime) := List.mem_filter.mpr ⟨h, lifetime⟩
    have hc := countAll_le_flatMap hm fun arg =>
      arg.tokens ++ if arg.comma then TokenStream.symbol "," else []
    rw [countAll_append] at hc
    omega
  | false =>
    have hm : arg ∈ args.filter (fun arg => !arg.isLifetime) :=
      List.mem_filter.mpr ⟨h, by simp [lifetime]⟩
    exact Nat.le_trans (countAll_le_join hm _) (Nat.le_add_left _ _)

private theorem GenericArg.exists_mem_placed {args : List GenericArg} {arg : GenericArg}
    (h : arg ∈ args) (trailing : Bool) :
    ∃ placedArg ∈ placed trailing args, placedArg.tokens = arg.tokens := by
  induction args with
  | nil => simp at h
  | cons first rest ih =>
    cases rest with
    | nil => simp_all [placed]
    | cons second others =>
      rcases List.mem_cons.mp h with rfl | hr
      · exact ⟨⟨arg.isLifetime, arg.tokens, true⟩, by simp [placed], rfl⟩
      · obtain ⟨placedArg, hm, he⟩ := ih hr
        exact ⟨placedArg, by simp [placed, hm], he⟩

private theorem Segment.countAll_lt {name : String} {turbofish trailing : Bool}
    {args : List GenericArg} {arg : GenericArg} (h : arg ∈ args) :
    countAll arg.tokens < countAll (Segment.applied name turbofish args trailing).tokens := by
  obtain ⟨placedArg, hm, he⟩ := GenericArg.exists_mem_placed h trailing
  have inArgs := PlacedArg.countAll_le_arrange hm
  simp only [Segment.tokens, countAll_append, countAll, count]
  rw [he] at inArgs
  omega

private theorem Segment.countAll_le_pathTokens {segments : List Segment} {segment : Segment}
    (h : segment ∈ segments) : countAll segment.tokens ≤ countAll (pathTokens segments) := by
  obtain ⟨first, rest, rfl⟩ := List.exists_cons_of_ne_nil (List.ne_nil_of_mem h)
  rw [pathTokens_cons, countAll_append]
  rcases List.mem_cons.mp h with rfl | hr
  · exact Nat.le_add_right _ _
  · have inRest := countAll_le_flatMap hr fun segment => TokenStream.symbol "::" ++ segment.tokens
    rw [countAll_append] at inRest
    rw [restTokens]
    omega

/-- An argument of a segment has fewer tokens than a path with this segment. -/
theorem Path.countAll_lt {path : Path} {name : String} {turbofish trailing : Bool}
    {args : List GenericArg} (hs : .applied name turbofish args trailing ∈ path.segments)
    {arg : GenericArg} (ha : arg ∈ args) : countAll arg.tokens < countAll path.tokens := by
  have inSegment :
      countAll arg.tokens < countAll (Segment.applied name turbofish args trailing).tokens :=
    Segment.countAll_lt ha
  have inPath := Segment.countAll_le_pathTokens hs
  rw [Path.tokens, Ty.tokens, countAll_append]
  omega

namespace Rules

variable {rules : Rules} {rest : TokenStream}

/-- Tokens that start a path also where a type can start: a word that may do so, or `::`. -/
inductive StartsPath : TokenStream → Prop
  | word {word} (h : Word.startsPath word = true) (more) : StartsPath (.word word :: more)
  | colons (more) : StartsPath (.punct ':' true :: .punct ':' false :: more)

private theorem run_binder {tokens : TokenStream} (h : StartsPath tokens) :
    StateT.run rules.binder tokens = some ([], tokens) := by
  rw [binder, takeIf]
  cases h with
  | word hw => simp (disch := first | assumption | decide)
  | colons => simp

theorem run_typeRule (allowPlus : Bool) {tokens : TokenStream} (h : StartsPath tokens) :
    StateT.run (rules.typeRule allowPlus) tokens =
      StateT.run (rules.pathType allowPlus []) tokens := by
  have binder (next : TokenStream → Parser Ty) :
      StateT.run (rules.binder >>= next) tokens = StateT.run (next []) tokens :=
    run_bind_of_run (run_binder h)
  rw [typeRule]
  cases h with
  | word hw => simp (disch := first | assumption | decide) [↓binder, hw]
  | colons => simp [↓binder, startsWithSymbol]

/-- What stands behind a path that is a type does not go on with the type. -/
structure EndsType (rest : TokenStream) : Prop extends EndsPath rest where
  noBang : startsWithSymbol ['!'] rest = false
  noPlus : startsWithSymbol ['+'] rest = false

theorem endsType_nil : EndsType [] := ⟨⟨rfl, rfl⟩, rfl, rfl⟩

theorem endsType_of_endsArg {char : Char} (h : char = ',' ∨ char = '>') (joint : Bool)
    (more : TokenStream) : EndsType (.punct char joint :: more) := by
  rcases h with rfl | rfl <;> exact ⟨⟨rfl, rfl⟩, rfl, rfl⟩

end Rules

namespace Path

/-- A path that starts with the keyword `try`, which cannot start a type. -/
def startsWithTry (path : Path) : Bool :=
  !path.leading && path.segments.head?.any fun segment => segment.name == "try"

theorem IsReadable.startsPath {path : Path} {isArg : TokenStream → Prop}
    (readable : path.IsReadable .inType isArg) (noTry : path.startsWithTry = false)
    (rest : TokenStream) : Rules.StartsPath (path.tokens ++ rest) := by
  obtain ⟨leading, segments⟩ := path
  obtain ⟨ne, hsegments⟩ := readable
  obtain ⟨segment, segments, rfl⟩ := List.exists_cons_of_ne_nil ne
  obtain ⟨more, tokens⟩ := segment.tokens_eq_cons
  rw [Path.tokens, Ty.tokens, Segment.pathTokens_cons, tokens]
  cases leading with
  | true => exact .colons _
  | false =>
    refine .word ?_ _
    rcases (hsegments segment List.mem_cons_self).eq_try_or_startsPath with rfl | starts
    · exact absurd noTry (by simp [startsWithTry, Segment.name])
    · exact starts

end Path

namespace Rules

variable {rules : Rules} {rest : TokenStream} {path : Path}

/-- **A path is read as a type from its tokens.** -/
theorem takes_type (allowPlus : Bool) (readable : path.IsReadable .inType rules.TakesArg)
    (noTry : path.startsWithTry = false) (ends : EndsType rest) :
    (rules.typeRule allowPlus).Takes path.tokens rest := by
  have starts := readable.startsPath noTry rest
  obtain ⟨read, hr⟩ := takes_path readable ends.toEndsPath
  have noAngle : startsWithSymbol ['<'] (path.tokens ++ rest) = false := by
    generalize path.tokens ++ rest = tokens at starts
    cases starts <;> rfl
  refine ⟨.path read.leading read.segments, ?_⟩
  rw [run_typeRule allowPlus starts, pathType]
  simp [noAngle, hr, ends.noBang, ends.noPlus]

theorem StartsPath.run_literal {tokens : TokenStream} (h : StartsPath tokens) :
    StateT.run literal tokens = none := by
  cases h with
  | word hw => exact run_literal_word hw _
  | colons => rfl

/-- A path that is a type is read as an argument as well. -/
theorem takes_genericArg {tokens : TokenStream} (starts : StartsPath (tokens ++ rest))
    (ends : EndsType rest) (noEquals : startsWithSymbol ['='] rest = false)
    (h : (rules.type true).Takes tokens rest) : rules.genericArgRule.Takes tokens rest := by
  obtain ⟨ty, ht⟩ := h
  have noLiteral := starts.run_literal
  refine ⟨.type ty, ?_⟩
  rw [genericArgRule]
  generalize tokens ++ rest = source at starts ht noLiteral ⊢
  -- Neither a lifetime, a literal nor a block starts like a path, and no `=` or `:` follows.
  cases starts <;>
  · simp [noLiteral, ht]
    split <;> simp [noEquals, ends.noColon]

end Rules

/-! ### Arguments and types -/

namespace TokenStream

/-- Tokens that are read as an argument in any list in angle brackets. -/
def IsArgument (tokens : TokenStream) : Prop :=
  ∀ depth, 8 * countAll tokens ≤ depth → ∀ char joint more, char = ',' ∨ char = '>' →
    (Rules.upTo depth).genericArg.Takes tokens (.punct char joint :: more)

/-- Tokens that are read as a type. -/
def IsType (tokens : TokenStream) : Prop :=
  (((Rules.forTokens tokens).type true).run? tokens).isSome = true

instance : DecidablePred IsType := fun _ => inferInstanceAs (Decidable (_ = true))

/-- No argument starts with the sign that ends a list of arguments. -/
theorem IsArgument.takesArg {tokens : TokenStream} (h : IsArgument tokens) {depth : Nat}
    (enough : 8 * countAll tokens ≤ depth) : (Rules.upTo (depth + 2)).TakesArg tokens := by
  intro more after follows
  obtain ⟨char, joint, more, ends, rfl⟩ : ∃ char joint more',
      (char = ',' ∨ char = '>') ∧ after = .punct char joint :: more' := by
    rcases follows with rfl | ⟨joint, more', rfl⟩
    · exact ⟨'>', false, more, .inr rfl, rfl⟩
    · exact ⟨',', joint, more', .inl rfl, rfl⟩
  have taken := h (depth + 2) (by omega) char joint more ends
  refine ⟨?_, taken⟩
  obtain ⟨arg, ha⟩ := taken
  have starts : startsWithSymbol ['>'] (tokens ++ .punct char joint :: more) = false := by
    rw [← Bool.not_eq_true, startsWithSymbol_singleton_iff]
    rintro ⟨joint', more', he⟩
    have fails : StateT.run (Rules.upTo (depth + 2)).genericArg (.punct '>' joint' :: more') =
      none := rfl
    rw [he, fails] at ha
    exact nomatch ha
  change some (startsWithSymbol ['>'] (List.drop 0 _), _) = _
  rw [List.drop_zero, starts]

end TokenStream

namespace Path

variable {path : Path}

/-- The arguments of a path are taken by the rules that suffice for about as many tokens. -/
theorem IsReadable.upTo {style : PathStyle} {depth : Nat}
    (readable : path.IsReadable style TokenStream.IsArgument)
    (enough : 8 * countAll path.tokens ≤ depth + 8) :
    path.IsReadable style (Rules.upTo (depth + 2)).TakesArg := by
  refine ⟨readable.ne, fun segment hs => ?_⟩
  have h := readable.segments segment hs
  cases segment with
  | plain name => exact h
  | applied name turbofish args trailing =>
    obtain ⟨word, fits, hargs⟩ := h
    refine ⟨word, fits, fun arg ha => ?_⟩
    have fewer := countAll_lt hs ha
    exact (hargs arg ha).takesArg (by omega)

theorem tokens_ne_nil (ne : path.segments ≠ []) : path.tokens ≠ [] := by
  obtain ⟨leading, segments⟩ := path
  obtain ⟨segment, segments, rfl⟩ := List.exists_cons_of_ne_nil ne
  obtain ⟨more, tokens⟩ := segment.tokens_eq_cons
  rw [Path.tokens, Ty.tokens, Segment.pathTokens_cons, tokens]
  simp

theorem countAll_pos (ne : path.segments ≠ []) : 0 < countAll path.tokens := by
  obtain ⟨token, rest, tokens⟩ := List.exists_cons_of_ne_nil (tokens_ne_nil ne)
  rw [tokens, countAll]
  cases token <;> simp only [count] <;> omega

/-- **A path is an argument** if its own arguments are. -/
theorem IsReadable.isArgument (readable : path.IsReadable .inType TokenStream.IsArgument)
    (noTry : path.startsWithTry = false) : TokenStream.IsArgument path.tokens := by
  intro depth enough char joint more ends
  have some := countAll_pos readable.ne
  obtain ⟨depth, rfl⟩ : ∃ fewer, depth = fewer + 5 := ⟨depth - 5, by omega⟩
  have endsType := Rules.endsType_of_endsArg ends joint more
  have noEquals : startsWithSymbol ['='] (.punct char joint :: more) = false := by
    rcases ends with rfl | rfl <;> rfl
  have ty : ((Rules.upTo (depth + 4)).type true).Takes path.tokens (.punct char joint :: more) :=
    Rules.takes_type true (readable.upTo (by omega)) noTry endsType
  exact Rules.takes_genericArg (readable.startsPath noTry _) endsType noEquals ty

/-- **A path is a type** if its arguments are arguments. -/
theorem IsReadable.isType (readable : path.IsReadable .inType TokenStream.IsArgument)
    (noTry : path.startsWithTry = false) : TokenStream.IsType path.tokens := by
  have ty : ((Rules.forTokens path.tokens).type true).Takes path.tokens [] :=
    Rules.takes_type true (readable.upTo (by omega)) noTry Rules.endsType_nil
  obtain ⟨ty, ht⟩ := ty
  rw [List.append_nil] at ht
  rw [TokenStream.IsType, run?, ht]
  rfl

end Path

/-- No type starts with the keyword `try`. -/
theorem Rules.run_typeRule_try (rules : Rules) (allowPlus : Bool) (more : TokenStream) :
    StateT.run (rules.typeRule allowPlus) (.word "try" :: more) = none := by
  have binder (next : TokenStream → Parser Ty) :
      StateT.run (rules.binder >>= next) (.word "try" :: more) =
        StateT.run (next []) (.word "try" :: more) := by
    refine run_bind_of_run ?_
    rw [Rules.binder, takeIf]
    simp
  have noStart : Word.startsPath "try" = false := by decide
  rw [typeRule]
  simp [↓binder, noStart, startsWithSymbol]

/-- **A path whose arguments are arguments is a type**, unless it starts with `try`. -/
theorem Path.IsReadable.isType_iff {path : Path}
    (readable : path.IsReadable .inType TokenStream.IsArgument) :
    TokenStream.IsType path.tokens ↔ path.startsWithTry = false := by
  refine ⟨fun ty => ?_, readable.isType⟩
  by_contra starts
  obtain ⟨leading, segments⟩ := path
  obtain ⟨segment, segments, rfl⟩ := List.exists_cons_of_ne_nil readable.ne
  obtain ⟨rfl, first⟩ : leading = false ∧ segment.name = "try" := by
    simpa [startsWithTry] using starts
  obtain ⟨more, tokens⟩ := segment.tokens_eq_cons
  have source : Path.tokens ⟨false, segment :: segments⟩ =
      .word "try" :: (more ++ Segment.restTokens segments) := by
    simp [Path.tokens, Ty.tokens, Segment.pathTokens_cons, tokens, first]
  have none : StateT.run ((Rules.forTokens (Path.tokens ⟨false, segment :: segments⟩)).type true)
      (Path.tokens ⟨false, segment :: segments⟩) = none := by
    rw [source]
    exact Rules.run_typeRule_try _ true _
  rw [TokenStream.IsType, run?, none] at ty
  exact Bool.false_ne_true ty

/-! ### Types that paths name -/

theorem TokenStream.isArgument_lifetime (name : String) :
    TokenStream.IsArgument [.lifetime name] := by
  intro depth enough char joint more ends
  obtain ⟨depth, rfl⟩ : ∃ fewer, depth = fewer + 1 :=
    ⟨depth - 1, by simp only [countAll, count] at enough; omega⟩
  refine ⟨.lifetime name, ?_⟩
  change StateT.run (Rules.upTo depth).genericArgRule _ = _
  rw [Rules.genericArgRule]
  have taken (rest : TokenStream) :
      StateT.run lifetime (.lifetime name :: rest) = some (name, rest) := rfl
  rcases ends with rfl | rfl <;> simp [startsWithSymbol, taken]

mutual

/-- Whether a type is named by a path, with lifetimes and such types as its arguments. -/
def Ty.isNamed : Ty → Bool
  | .path leading segments =>
    !segments.isEmpty && !(⟨leading, segments⟩ : Path).startsWithTry && Segment.areNamed segments
  | _ => false

/-- Whether a segment may be part of such a path. -/
def Segment.isNamed : Segment → Bool
  | .plain name => Word.isIdent name || name == "Self" || Rules.keywordSegments.contains name
  | .applied name _ args _ => (Word.isIdent name || name == "Self") && GenericArg.areNamed args

/-- Whether all segments may be part of such a path. -/
def Segment.areNamed : List Segment → Bool
  | [] => true
  | segment :: rest => segment.isNamed && Segment.areNamed rest

/-- Whether an argument is a lifetime or such a type. -/
def GenericArg.isNamed : GenericArg → Bool
  | .lifetime _ => true
  | .type ty => ty.isNamed
  | _ => false

/-- Whether all arguments are lifetimes or such types. -/
def GenericArg.areNamed : List GenericArg → Bool
  | [] => true
  | arg :: rest => arg.isNamed && GenericArg.areNamed rest

end

mutual

/-- **Types that paths name are arguments.** -/
theorem Ty.isArgument_of_isNamed : ∀ {ty : Ty}, ty.isNamed = true →
    TokenStream.IsArgument ty.tokens
  | .path leading segments, h => by
    simp only [Ty.isNamed, Bool.and_eq_true, Bool.not_eq_true', List.isEmpty_eq_false_iff] at h
    obtain ⟨⟨ne, noTry⟩, named⟩ := h
    have readable : (⟨leading, segments⟩ : Path).IsReadable .inType TokenStream.IsArgument :=
      ⟨ne, Segment.isReadable_of_areNamed named⟩
    exact readable.isArgument noTry

theorem Segment.isReadable_of_isNamed : ∀ {segment : Segment}, segment.isNamed = true →
    segment.IsReadable .inType TokenStream.IsArgument
  | .plain name, h => by simpa [Segment.isNamed, Segment.IsReadable, or_assoc] using h
  | .applied name turbofish args trailing, h => by
    simp only [Segment.isNamed, Bool.and_eq_true, Bool.or_eq_true, beq_iff_eq] at h
    exact ⟨h.1, .inl rfl, GenericArg.isArgument_of_areNamed h.2⟩

theorem Segment.isReadable_of_areNamed : ∀ {segments : List Segment},
    Segment.areNamed segments = true →
      ∀ segment ∈ segments, segment.IsReadable .inType TokenStream.IsArgument
  | [], _ => by simp
  | segment :: rest, h => by
    simp only [Segment.areNamed, Bool.and_eq_true] at h
    exact List.forall_mem_cons.mpr
      ⟨Segment.isReadable_of_isNamed h.1, Segment.isReadable_of_areNamed h.2⟩

theorem GenericArg.isArgument_of_isNamed : ∀ {arg : GenericArg}, arg.isNamed = true →
    TokenStream.IsArgument arg.tokens
  | .lifetime name, _ => by
    rw [GenericArg.tokens]
    exact TokenStream.isArgument_lifetime name
  | .type ty, h => by
    rw [GenericArg.isNamed] at h
    rw [GenericArg.tokens]
    exact Ty.isArgument_of_isNamed h

theorem GenericArg.isArgument_of_areNamed : ∀ {args : List GenericArg},
    GenericArg.areNamed args = true → ∀ arg ∈ args, TokenStream.IsArgument arg.tokens
  | [], _ => by simp
  | arg :: rest, h => by
    simp only [GenericArg.areNamed, Bool.and_eq_true] at h
    exact List.forall_mem_cons.mpr
      ⟨GenericArg.isArgument_of_isNamed h.1, GenericArg.isArgument_of_areNamed h.2⟩

end

end KeyedCoding
