import KeyedCoding.Proofs.Grammar.Paths

/-!
# Expressions that are literals

An expression is read as a literal only if it is a literal token, with the sign of a number at most.
Whatever is written around a literal makes the expression another one: parentheses, an invisible
group, an attribute, an operator, a field or a call.

## Main definitions

* `Expr.IsCompound`: an expression that is no literal.
* `Parser.KeepsLiterals`: a parser reads nothing but literals as literals.
* `Parser.GoesOnFrom`: a parser leaves an expression a literal only if it takes nothing.
* `Rules.KeepLiterals`: what the rules for expressions read as a literal is one.

## Main results

* `Rules.keepLiterals_upTo`: the rules of the grammar read only literals as literals.
-/

namespace KeyedCoding

/-- An expression that is no literal. -/
def Expr.IsCompound (expr : Expr) : Prop := ∃ form tokens, expr = .compound form tokens

theorem Expr.isCompound_compound (form : Expr.Form) (tokens : TokenStream) :
    (compound form tokens).IsCompound := ⟨form, tokens, rfl⟩

theorem Expr.not_isCompound_literal (value : Literal) : ¬(literal value).IsCompound :=
  fun ⟨_, _, he⟩ => nomatch he

/-- An expression with attributes is no literal. -/
theorem Expr.withAttributes_eq_literal_iff {attributes : TokenStream} {expr : Expr}
    {value : Literal} : expr.withAttributes attributes = .literal value ↔
      attributes = [] ∧ expr = .literal value := by
  cases attributes <;> simp [withAttributes]

namespace Parser

variable {parser : Parser Expr} {condition : TokenStream → Literal → TokenStream → Prop}

theorem gives_compound (form : Expr.Form) (tokens : TokenStream) :
    Gives (pure (.compound form tokens)) Expr.IsCompound :=
  .pure (Expr.isCompound_compound form tokens)

theorem Gives.group {α : Type} {content : Parser α} {property : α → Prop}
    (h : Gives content property) (delimiter : Delimiter) :
    Gives (group delimiter content) property := by
  intro tokens result rest run
  obtain ⟨inner, -, read⟩ := run_group_eq_some_iff.mp run
  exact h _ _ _ read

/-- Whenever a parser gives a literal, the tokens before and behind what it has read satisfy a
condition. -/
def LiteralsSatisfy (parser : Parser Expr)
    (condition : TokenStream → Literal → TokenStream → Prop) : Prop :=
  ∀ tokens value rest, StateT.run parser tokens = some (.literal value, rest) →
    condition tokens value rest

/-- What a parser gives as a literal is the literal at the front of the tokens. -/
abbrev KeepsLiterals (parser : Parser Expr) : Prop :=
  parser.LiteralsSatisfy fun tokens value rest => StateT.run literal tokens = some (value, rest)

/-- A parser goes on from an expression that has been read: it gives a literal only if this is the
expression, and then it takes nothing. -/
abbrev GoesOnFrom (left : Expr) (parser : Parser Expr) : Prop :=
  parser.LiteralsSatisfy fun tokens value rest => left = .literal value ∧ rest = tokens

theorem Gives.literalsSatisfy (h : Gives parser Expr.IsCompound) :
    parser.LiteralsSatisfy condition :=
  fun _ value _ run => absurd (h _ _ _ run) (Expr.not_isCompound_literal value)

theorem GoesOnFrom.gives {left : Expr} (h : GoesOnFrom left parser) (compound : left.IsCompound) :
    Gives parser Expr.IsCompound := by
  intro tokens result rest run
  cases result with
  | literal value =>
    obtain ⟨rfl, -⟩ := h _ _ _ run
    exact absurd compound (Expr.not_isCompound_literal value)
  | compound form tokens => exact Expr.isCompound_compound form tokens

/-- A parser that takes nothing first only looks at what follows. -/
theorem LiteralsSatisfy.look {α : Type} {first : Parser α} {next : α → Parser Expr}
    (takesNothing : ∀ tokens, ∃ result, StateT.run first tokens = some (result, tokens))
    (h : ∀ result, (next result).LiteralsSatisfy condition) :
    (first >>= next).LiteralsSatisfy condition := by
  intro tokens value rest run
  obtain ⟨result, hf⟩ := takesNothing tokens
  rw [run_bind_of_run hf] at run
  exact h result _ _ _ run

/-- A parser satisfies what the first of its parts leaves to the second one. -/
theorem LiteralsSatisfy.bind {α : Type} {first : Parser α} {next : α → Parser Expr}
    {between : α → TokenStream → Literal → TokenStream → Prop}
    (h : ∀ result, (next result).LiteralsSatisfy (between result))
    (join : ∀ tokens result middle value rest, StateT.run first tokens = some (result, middle) →
      between result middle value rest → condition tokens value rest) :
    (first >>= next).LiteralsSatisfy condition := by
  intro tokens value rest run
  obtain ⟨result, middle, hf, hs⟩ := run_bind_eq_some_iff.mp run
  exact join _ _ _ _ _ hf (h _ _ _ _ hs)

theorem LiteralsSatisfy.ite {holds : Prop} [Decidable holds] {first second : Parser Expr}
    (hf : first.LiteralsSatisfy condition) (hs : second.LiteralsSatisfy condition) :
    (if holds then first else second).LiteralsSatisfy condition := by
  split
  · exact hf
  · exact hs

end Parser

/-! ### Expressions that a keyword, a path or a bracket starts -/

namespace Rules

open KeyedCoding.Parser

variable (rules : Rules) (allowBrace : Bool)

theorem gives_loopOrBlock : Gives rules.loopOrBlock Expr.IsCompound := by
  rw [loopOrBlock]
  refine .after fun _ => .ite ?_ (.after fun _ => .ite ?_ (.after fun _ => .ite ?_ ?_))
  · exact .after fun _ => .after fun _ => .after fun _ => gives_compound _ _
  · exact .after fun _ => .after fun _ => .after fun _ => .after fun _ => .after fun _ =>
      gives_compound _ _
  · exact .after fun _ => .after fun _ => gives_compound _ _
  · exact .after fun _ => gives_compound _ _

theorem gives_pathExpr : Gives (rules.pathExpr allowBrace) Expr.IsCompound := by
  rw [pathExpr]
  refine .after fun path => .after fun _ => .after fun _ => .ite ?_ (.after fun _ => .ite ?_ ?_)
  · exact .after fun _ => .after fun _ => gives_compound _ _
  · exact .after fun _ => gives_compound _ _
  · exact gives_compound _ _

theorem gives_parenExpr : Gives rules.parenExpr Expr.IsCompound := by
  rw [parenExpr]
  refine .group (.after fun _ => .ite (gives_compound _ _) ?_) _
  refine .after fun _ => .after fun _ => .ite (gives_compound _ _) ?_
  exact .after fun _ => .after fun _ => gives_compound _ _

theorem gives_bracketExpr : Gives rules.bracketExpr Expr.IsCompound := by
  rw [bracketExpr]
  refine .group (.after fun _ => .ite (gives_compound _ _) ?_) _
  refine .after fun _ => .after fun _ => .ite ?_ (.after fun _ => .ite (gives_compound _ _) ?_)
  · exact .after fun _ => .after fun _ => gives_compound _ _
  · exact .after fun _ => .after fun _ => gives_compound _ _

theorem gives_closure : Gives (rules.closure allowBrace) Expr.IsCompound := by
  rw [closure]
  refine .after fun _ => .after fun _ => .after fun _ => .after fun _ => .after fun _ => .ite ?_ ?_
  · exact .after fun _ => .after fun _ => gives_compound _ _
  · exact .after fun _ => gives_compound _ _

theorem gives_breakExpr : Gives (rules.breakExpr allowBrace) Expr.IsCompound := by
  rw [breakExpr]
  exact .after fun _ => .after fun _ => .after fun _ => .after fun _ => .after fun _ =>
    gives_compound _ _

theorem gives_keywordValue (word : String) (form : Expr.Form) :
    Gives (rules.keywordValue word form) Expr.IsCompound :=
  .after fun _ => .after fun _ => gives_compound _ _

theorem gives_letExpr : Gives (rules.letExpr allowBrace) Expr.IsCompound :=
  .after fun _ => .after fun _ => .after fun _ => .after fun _ => .after fun _ =>
    gives_compound _ _

theorem gives_matchExpr : Gives rules.matchExpr Expr.IsCompound :=
  .after fun _ => .after fun _ => .after fun _ => gives_compound _ _

/-- What is started by a keyword or a block is no literal. -/
theorem gives_blockLike? :
    Gives rules.blockLike? fun block? => ∀ block, block? = some block → block.IsCompound := by
  have given {parser : Parser Expr} (h : Gives parser Expr.IsCompound) :
      Gives (do return some (← parser)) fun block? =>
        ∀ block, block? = some block → block.IsCompound :=
    .bind h fun block hb => .pure fun _ he => Option.some.inj he ▸ hb
  have found (form : Expr.Form) (tokens : TokenStream) :
      Gives (pure (some (Expr.compound form tokens))) fun block? =>
        ∀ block, block? = some block → block.IsCompound :=
    .pure fun _ he => Option.some.inj he ▸ Expr.isCompound_compound form tokens
  rw [blockLike?]
  refine .after fun _ => .ite (.after fun _ => .after fun _ => found _ _) ?_
  refine .after fun _ => .after fun _ => .ite (given rules.gives_loopOrBlock) ?_
  refine .after fun _ => .after fun _ => .ite (given rules.gives_loopOrBlock) ?_
  refine .after fun _ => .ite (given rules.gives_matchExpr) ?_
  refine .after fun _ => .after fun _ => .ite (.after fun _ => .after fun _ => found _ _) ?_
  refine .after fun _ => .ite (given ?_) (.after fun _ => .after fun _ => .ite (given ?_) ?_)
  · exact .after fun _ => .after fun _ => gives_compound _ _
  · exact .after fun _ => .after fun _ => gives_compound _ _
  refine .after fun _ => .ite (given ?_) (.pure fun _ he => nomatch he)
  exact .after fun _ => .after fun _ => .after fun _ => gives_compound _ _

/-- An atom is a literal only if it is the token of one. -/
theorem keepsLiterals_atom : KeepsLiterals (rules.atom allowBrace) := by
  have first : KeepsLiterals (do return .literal (← literal)) := by
    intro tokens value rest run
    obtain ⟨read, between, hr, hp⟩ := run_bind_eq_some_iff.mp run
    cases hp
    exact hr
  rw [atom]
  refine .look (fun _ => ⟨_, rfl⟩) fun _ => .ite (Gives.literalsSatisfy ?_) ?_
  · exact .after fun _ => gives_compound _ _
  refine .look (fun _ => ⟨_, rfl⟩) fun _ => .ite first (Gives.literalsSatisfy ?_)
  refine .after fun _ => .after fun _ => .after fun _ => .after fun _ => .ite ?_ ?_
  · exact .after fun _ => gives_compound _ _
  refine .bind rules.gives_blockLike? fun block? hb => ?_
  cases block? with
  | some block => exact .pure (hb block rfl)
  | none =>
    -- None of the other kinds of atoms is a literal.
    refine .after fun _ => .ite (rules.gives_closure allowBrace) ?_
    refine .after fun _ => .after fun _ => .ite (.after fun _ => gives_compound _ _) ?_
    refine .after fun _ => .after fun _ => .after fun _ => .after fun _ => .ite ?_ ?_
    · exact rules.gives_pathExpr allowBrace
    refine .after fun _ => .ite rules.gives_parenExpr ?_
    refine .after fun _ => .ite (rules.gives_breakExpr allowBrace) ?_
    refine .after fun _ => .ite (.after fun _ => gives_compound _ _) ?_
    refine .after fun _ => .ite (rules.gives_keywordValue _ _) ?_
    refine .after fun _ => .ite (.after fun _ => gives_compound _ _) ?_
    refine .after fun _ => .ite rules.gives_bracketExpr ?_
    refine .after fun _ => .ite (rules.gives_letExpr allowBrace) ?_
    refine .after fun _ => .ite (rules.gives_keywordValue _ _) ?_
    refine .after fun _ => .ite (.after fun _ => .after fun _ => gives_compound _ _) ?_
    refine .after fun _ => .ite (.after fun _ => gives_compound _ _) ?_
    exact fun _ _ _ run => nomatch run

end Rules

/-! ### Operators and what they stand around -/

open KeyedCoding.Parser

/-- The rules for the parts of an expression make nothing but a literal a literal. -/
structure Rules.KeepLiterals (rules : Rules) : Prop where
  expr (allowBrace : Bool) : KeepsLiterals (rules.expr allowBrace)
  operand (allowBrace : Bool) : KeepsLiterals (rules.operand allowBrace)
  operators (allowBrace : Bool) (left : Expr) (least : Nat) :
    GoesOnFrom left (rules.operators allowBrace left least)
  trailers (left : Expr) : GoesOnFrom left (rules.trailers left)

namespace Rules

variable {rules : Rules} {allowBrace : Bool}

/-- A compound expression stays one, whatever follows it. -/
theorem KeepLiterals.gives_trailers (keep : rules.KeepLiterals) (form : Expr.Form)
    (tokens : TokenStream) : Gives (rules.trailers (.compound form tokens)) Expr.IsCompound :=
  (keep.trailers _).gives (Expr.isCompound_compound form tokens)

theorem gives_afterPoint (expr : TokenStream) : Gives (rules.afterPoint expr) Expr.IsCompound := by
  rw [afterPoint]
  refine .after fun _ => .ite (.after fun _ => gives_compound _ _) ?_
  refine .after fun _ => .after fun _ => .after fun _ => .ite ?_ ?_
  · exact .after fun _ => gives_compound _ _
  · exact .after fun _ => gives_compound _ _

theorem goesOnFrom_self (left : Expr) : GoesOnFrom left (pure left) := by
  intro tokens value rest run
  cases run
  exact ⟨rfl, rfl⟩

theorem goesOnFrom_trailersRule (keep : rules.KeepLiterals) (left : Expr) :
    GoesOnFrom left (rules.trailersRule left) := by
  have fields (expr : TokenStream) :
      Gives (do rules.trailers (← rules.afterPoint expr)) Expr.IsCompound :=
    .bind (gives_afterPoint expr) fun selected compound => (keep.trailers selected).gives compound
  -- Every branch but the last one goes on from a compound expression.
  rw [trailersRule]
  refine .look (fun _ => ⟨_, rfl⟩) fun _ => .ite (Gives.literalsSatisfy ?_) ?_
  · exact .after fun _ => keep.gives_trailers _ _
  refine .look (fun _ => ⟨_, rfl⟩) fun _ => .look (fun _ => ⟨_, rfl⟩) fun _ =>
    .ite (Gives.literalsSatisfy ?_) ?_
  · refine .after fun _ => .after fun tokens => ?_
    split
    · split
      · exact .after fun _ => .ite (fields _) (keep.gives_trailers _ _)
      · exact fields _
    · exact fields _
  refine .look (fun _ => ⟨_, rfl⟩) fun _ => .ite (Gives.literalsSatisfy ?_) ?_
  · exact .after fun _ => keep.gives_trailers _ _
  refine .look (fun _ => ⟨_, rfl⟩) fun _ => .ite (Gives.literalsSatisfy ?_) ?_
  · exact .after fun _ => keep.gives_trailers _ _
  exact goesOnFrom_self left

theorem goesOnFrom_operatorsRule (keep : rules.KeepLiterals) (left : Expr) (least : Nat) :
    GoesOnFrom left (rules.operatorsRule allowBrace left least) := by
  have goOn (form : Expr.Form) (tokens : TokenStream) :
      Gives (rules.operators allowBrace (.compound form tokens) least) Expr.IsCompound :=
    (keep.operators allowBrace _ least).gives (Expr.isCompound_compound form tokens)
  rw [operatorsRule]
  refine .ite (goesOnFrom_self left) (.look (fun _ => ⟨_, rfl⟩) fun binary? => ?_)
  split
  · refine .ite (goesOnFrom_self left) (Gives.literalsSatisfy ?_)
    exact .after fun _ => .after fun _ => .after fun _ => goOn _ _
  · refine .look (fun _ => ⟨_, rfl⟩) fun _ => .look (fun _ => ⟨_, rfl⟩) fun _ =>
      .ite (Gives.literalsSatisfy ?_) ?_
    · exact .after fun _ => .after fun _ => goOn _ _
    refine .look (fun _ => ⟨_, rfl⟩) fun _ => .ite (Gives.literalsSatisfy ?_) ?_
    · exact .after fun _ => .after fun _ => goOn _ _
    refine .look (fun _ => ⟨_, rfl⟩) fun _ => .ite (Gives.literalsSatisfy ?_) ?_
    · exact .after fun _ => .after fun _ => .after fun _ => .after fun _ => goOn _ _
    exact goesOnFrom_self left

theorem gives_outerAttribute : Gives rules.outerAttribute (· ≠ []) := by
  have mark : Gives (symbol "#") (· ≠ []) :=
    .after fun _ => .after fun _ => .after fun _ =>
      .pure (List.cons_ne_nil (TokenTree.punct '#' false) [])
  refine .bind mark fun mark hm => .after fun _ => .pure fun he => ?_
  exact hm (List.append_eq_nil_iff.mp he).1

/-- Without attributes nothing is taken. -/
theorem eq_of_run_outerAttributes {tokens rest : TokenStream}
    (h : StateT.run rules.outerAttributes tokens = some ([], rest)) : rest = tokens := by
  obtain ⟨attributes, between, hr, hp⟩ := run_bind_eq_some_iff.mp h
  obtain ⟨none, rfl⟩ : attributes.flatten = [] ∧ between = rest := by simpa using hp
  rw [run_repeated, repeatUntil] at hr
  obtain ⟨stops, _, hs, hr⟩ := run_bind_eq_some_iff.mp hr
  obtain rfl := (Prod.mk.inj (Option.some.inj hs)).2
  rw [run_ite] at hr
  split at hr
  · cases hr
    rfl
  · obtain ⟨first, _, hf, hr⟩ := run_bind_eq_some_iff.mp hr
    obtain ⟨others, _, -, hr⟩ := run_bind_eq_some_iff.mp hr
    cases hr
    exact absurd (List.append_eq_nil_iff.mp none).1 (gives_outerAttribute _ _ _ hf)

theorem keepsLiterals_operandRule (keep : rules.KeepLiterals) (allowBrace : Bool) :
    KeepsLiterals (rules.operandRule allowBrace) := by
  have bare (attributes : TokenStream) : LiteralsSatisfy (do
        let expr ← rules.trailers (← rules.atom allowBrace)
        check (attributes.isEmpty || expr.form != .range)
        return expr.withAttributes attributes) fun tokens value rest =>
      attributes = [] ∧ StateT.run literal tokens = some (value, rest) := by
    intro tokens value rest run
    obtain ⟨atom, _, hr, run⟩ := run_bind_eq_some_iff.mp run
    obtain ⟨expr, _, ht, run⟩ := run_bind_eq_some_iff.mp run
    obtain ⟨_, _, hc, run⟩ := run_bind_eq_some_iff.mp run
    obtain ⟨he, rfl⟩ := Prod.mk.inj (Option.some.inj run)
    obtain ⟨none, rfl⟩ := Expr.withAttributes_eq_literal_iff.mp he
    obtain ⟨-, rfl⟩ := run_check_eq_some_iff.mp hc
    obtain ⟨rfl, rfl⟩ := keep.trailers atom _ _ _ ht
    exact ⟨none, keepsLiterals_atom rules allowBrace _ _ _ hr⟩
  rw [operandRule]
  refine .bind (fun attributes => (?_ : LiteralsSatisfy _ fun tokens value rest =>
    attributes = [] ∧ StateT.run literal tokens = some (value, rest))) ?_
  · refine .look (fun _ => ⟨_, rfl⟩) fun _ => .ite (Gives.literalsSatisfy ?_) ?_
    · refine .after fun _ => .after fun _ => .after fun _ => .ite ?_ ?_
      all_goals
        refine .after fun _ => .after fun _ => .ite ?_ ?_
        all_goals exact .after fun _ => .after fun _ => gives_compound _ _
    refine .look (fun _ => exists_run_peekSymbolOf _) fun _ =>
      .ite (Gives.literalsSatisfy ?_) (bare attributes)
    exact .after fun _ => .after fun _ => gives_compound _ _
  · rintro tokens attributes middle value rest ha ⟨rfl, read⟩
    exact eq_of_run_outerAttributes ha ▸ read

theorem keepsLiterals_exprRule (keep : rules.KeepLiterals) (allowBrace : Bool) :
    KeepsLiterals (rules.exprRule allowBrace) := by
  refine .bind (fun operand => keep.operators allowBrace operand Strength.least) ?_
  rintro tokens operand middle value rest read ⟨rfl, rfl⟩
  exact keep.operand allowBrace _ _ _ read

theorem keepLiterals_exhausted : exhausted.KeepLiterals where
  expr _ _ _ _ run := nomatch run
  operand _ _ _ _ run := nomatch run
  operators _ _ _ _ _ _ run := nomatch run
  trailers _ _ _ _ run := nomatch run

/-- **Literals among expressions.** The grammar reads nothing but a literal as a literal. -/
theorem keepLiterals_upTo (depth : Nat) : (upTo depth).KeepLiterals := by
  -- The rules of one depth refer to each other only at the depth below.
  induction depth with
  | zero => exact keepLiterals_exhausted
  | succ depth ih =>
    exact ⟨keepsLiterals_exprRule ih, keepsLiterals_operandRule ih,
      fun _ => goesOnFrom_operatorsRule ih, goesOnFrom_trailersRule ih⟩

end Rules

end KeyedCoding
