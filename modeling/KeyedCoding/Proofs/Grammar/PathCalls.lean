import KeyedCoding.Proofs.Grammar.PathTypes

/-!
# Reading calls of paths

The call of a path with simple expressions as its arguments is read as an expression. None of the
rules that are tried before that for paths applies, and after the arguments nothing is left that an
operator or a further trailer could start with. In an expression the keyword `try` may start a path,
but not stand alone.

The expressions that stand in such a call are paths, calls, fields of paths, and operands with a
reference or a dereference in front of them.

## Main definitions

* `Rules.TakesOperand`, `Rules.TakesExpr`: tokens that are taken as an item of a list.
* `TokenStream.IsExpr`: tokens that are read as an expression.
* `TokenStream.IsSimpleExpr`: expressions for which rules of little depth suffice.

## Main results

* `Rules.run_atom`: where a path starts, an atom is a path.
* `Rules.takesOperand_path`, `Rules.takesOperand_call`, `Rules.takesOperand_field`: paths, their
  calls and their fields are operands.
* `Path.IsReadable.isExpr_call`: a call is an expression.
-/

namespace KeyedCoding

open KeyedCoding.Parser TokenTree

namespace Rules

variable {rules : Rules} {rest : TokenStream}

/-- Tokens that start a path where an expression can start. -/
inductive StartsPathExpr : TokenStream → Prop
  | word {word} (h : Word.startsPath word = true) {more}
      (noMark : startsWithSymbol ['#'] more = false) : StartsPathExpr (.word word :: more)
  | colons (more) : StartsPathExpr (.punct ':' true :: .punct ':' false :: more)
  | tryColons (more) : StartsPathExpr (.word "try" :: .punct ':' true :: .punct ':' false :: more)

theorem StartsPathExpr.run_literal {tokens : TokenStream} (h : StartsPathExpr tokens) :
    StateT.run literal tokens = none := by
  cases h with
  | word hw => exact run_literal_word hw _
  | colons => rfl
  | tryColons => rfl

private theorem run_peekClosure {tokens : TokenStream} (h : StartsPathExpr tokens) :
    StateT.run peekClosure tokens = some (false, tokens) := by
  rw [peekClosure]
  cases h with
  | word hw => simp (disch := first | assumption | decide) [startsWithSymbol]
  | colons => simp [startsWithSymbol]
  | tryColons => simp [startsWithSymbol]

private theorem run_blockLike? {tokens : TokenStream} (h : StartsPathExpr tokens) :
    StateT.run rules.blockLike? tokens = some (none, tokens) := by
  have closure (next : Bool → Parser (Option Expr)) :
      StateT.run (peekClosure >>= next) tokens = StateT.run (next false) tokens :=
    run_bind_of_run (run_peekClosure h)
  rw [blockLike?]
  cases h with
  | word hw => simp (disch := first | assumption | decide) [↓closure]
  | colons => simp [↓closure]
  | tryColons => simp [↓closure]

theorem run_atom (allowBrace : Bool) {tokens : TokenStream} (h : StartsPathExpr tokens) :
    StateT.run (rules.atom allowBrace) tokens = StateT.run (rules.pathExpr allowBrace) tokens := by
  have closure (next : Bool → Parser Expr) :
      StateT.run (peekClosure >>= next) tokens = StateT.run (next false) tokens :=
    run_bind_of_run (run_peekClosure h)
  have blockLike (next : Option Expr → Parser Expr) :
      StateT.run (rules.blockLike? >>= next) tokens = StateT.run (next none) tokens :=
    run_bind_of_run (run_blockLike? h)
  have noLiteral := h.run_literal
  rw [atom]
  cases h with
  | word hw noMark =>
    simp (disch := first | assumption | decide) [↓closure, ↓blockLike, noLiteral, hw, noMark]
  | colons => simp [↓closure, ↓blockLike, noLiteral, startsWithSymbol]
  | tryColons => simp [↓closure, ↓blockLike, noLiteral, startsWithSymbol]

/-! ### Operands -/

/-- Nothing is read as attributes where no `#` stands. -/
theorem run_outerAttributes {tokens : TokenStream}
    (noMark : startsWithSymbol ['#'] tokens = false) :
    StateT.run rules.outerAttributes tokens = some ([], tokens) := by
  rw [outerAttributes, run_bind_of_run (run_repeated_of_stop _ (by simp [noMark]))]
  rfl

/-- An operand without operators in front of it is an atom with what follows it. -/
theorem run_operandRule (allowBrace : Bool) {tokens after : TokenStream}
    (h : StartsPathExpr tokens) {path expr : Expr}
    (hp : StateT.run (rules.pathExpr allowBrace) tokens = some (path, after))
    (ht : StateT.run (rules.trailers path) after = some (expr, rest)) :
    StateT.run (rules.operandRule allowBrace) tokens = some (expr, rest) := by
  have atom : StateT.run (rules.atom allowBrace) tokens = some (path, after) :=
    (run_atom allowBrace h).trans hp
  have attributes (next : TokenStream → Parser Expr) :
      StateT.run (rules.outerAttributes >>= next) tokens = StateT.run (next []) tokens := by
    refine run_bind_of_run (run_outerAttributes ?_)
    cases h <;> rfl
  have signs : startsWithSymbol ['&'] tokens = false ∧ startsWithSymbol ['*'] tokens = false ∧
      startsWithSymbol ['!'] tokens = false ∧ startsWithSymbol ['-'] tokens = false := by
    cases h <;> exact ⟨rfl, rfl, rfl, rfl⟩
  rw [operandRule]
  simp [↓attributes, signs, peekSymbolOf, atom, ht, check, Expr.withAttributes]

/-- What stands behind an expression in a list of arguments: nothing, or a comma. -/
inductive EndsExpr : TokenStream → Prop
  | nil : EndsExpr []
  | comma (joint more) : EndsExpr (.punct ',' joint :: more)

theorem run_trailersRule_of_ends (expr : Expr) (ends : EndsExpr rest) :
    StateT.run (rules.trailersRule expr) rest = some (expr, rest) := by
  rw [trailersRule]
  cases ends <;> simp [startsWithSymbol]

theorem run_operatorsRule_of_ends (allowBrace : Bool) (expr : Expr) (least : Nat)
    (ends : EndsExpr rest) :
    StateT.run (rules.operatorsRule allowBrace expr least) rest = some (expr, rest) := by
  have none : StateT.run peekBinary rest = some (none, rest) := by
    cases ends <;> rfl
  rw [operatorsRule]
  by_cases range : (expr.form == .range) = true
  · simp [range]
  · simp [range, none]
    cases ends <;> simp [startsWithSymbol]

/-! ### Paths and calls -/

/-- What can stand behind a path in an expression: its end, the arguments of a call, or a field. -/
inductive FollowsPath : TokenStream → Prop
  | ends {after} (h : EndsExpr after) : FollowsPath after
  | call (content more) : FollowsPath (.group .parenthesis content :: more)
  | point (more) : FollowsPath (.punct '.' false :: more)

theorem FollowsPath.endsPath (h : FollowsPath rest) : EndsPath rest := by
  rcases h with (_ | _) | _ | _ <;> exact ⟨rfl, rfl⟩

end Rules

namespace Path

theorem IsReadable.startsPathExpr {path : Path} {isArg : TokenStream → Prop} {rest : TokenStream}
    (readable : path.IsReadable .inExpr isArg)
    (noLoneTry : path.startsWithTry = true → 2 ≤ path.segments.length)
    (follows : Rules.FollowsPath rest) : Rules.StartsPathExpr (path.tokens ++ rest) := by
  obtain ⟨leading, segments⟩ := path
  obtain ⟨ne, hsegments⟩ := readable
  obtain ⟨segment, segments, rfl⟩ := List.exists_cons_of_ne_nil ne
  rw [Path.tokens, Ty.tokens, Segment.pathTokens_cons]
  cases leading with
  | true => exact .colons _
  | false =>
    have noMark : startsWithSymbol ['#'] (Segment.restTokens segments ++ rest) = false := by
      cases segments with
      | nil => rcases follows with (_ | _) | _ | _ <;> rfl
      | cons => rfl
    rcases (hsegments segment List.mem_cons_self).eq_try_or_startsPath with rfl | starts
    · have more := noLoneTry rfl
      obtain ⟨second, others, rfl⟩ : ∃ second others, segments = second :: others :=
        List.exists_cons_of_length_pos (by simp at more; omega)
      exact .tryColons _
    · cases segment with
      | plain name => exact .word starts noMark
      | applied name turbofish args trailing => exact .word starts (by cases turbofish <;> rfl)

end Path

namespace Rules

variable {rules : Rules} {rest : TokenStream} {path : Path}

/-- A path is read as an expression from its tokens. -/
theorem exists_run_pathExpr (allowBrace : Bool)
    (readable : path.IsReadable .inExpr rules.TakesArg)
    (noLoneTry : path.startsWithTry = true → 2 ≤ path.segments.length)
    (follows : FollowsPath rest) : ∃ tokens, StateT.run (rules.pathExpr allowBrace)
      (path.tokens ++ rest) = some (.compound .path tokens, rest) := by
  obtain ⟨read, hr⟩ := takes_path readable follows.endsPath
  have noAngle : startsWithSymbol ['<'] (path.tokens ++ rest) = false := by
    have starts := readable.startsPathExpr noLoneTry follows
    generalize path.tokens ++ rest = tokens at starts
    cases starts <;> rfl
  have exprPath : StateT.run rules.exprPath (path.tokens ++ rest) =
      some (.path read.leading read.segments, rest) := by
    rw [exprPath]
    simp [noAngle, hr]
  refine ⟨(Ty.path read.leading read.segments).tokens, ?_⟩
  rw [pathExpr, run_bind_of_run exprPath]
  rcases follows with (_ | _) | _ | _ <;> simp [startsWithSymbol]

/-- Tokens are taken as an operand, whatever list of expressions they stand in. -/
def TakesOperand (rules : Rules) (tokens : TokenStream) : Prop :=
  tokens ≠ [] ∧ ∀ after, EndsExpr after → (rules.operand true).Takes tokens after

/-- Tokens are taken as an expression, whatever list of expressions they stand in. -/
def TakesExpr (rules : Rules) (tokens : TokenStream) : Prop :=
  tokens ≠ [] ∧ ∀ after, EndsExpr after → (rules.expr true).Takes tokens after

section UpTo

variable {depth : Nat} {tokens : TokenStream}

theorem TakesOperand.takesExpr (h : (upTo (depth + 1)).TakesOperand tokens) :
    (upTo (depth + 2)).TakesExpr tokens := by
  refine ⟨h.1, fun after ends => ?_⟩
  obtain ⟨operand, ho⟩ := h.2 after ends
  refine ⟨operand, ?_⟩
  change StateT.run ((upTo (depth + 1)).exprRule true) (tokens ++ after) = _
  rw [exprRule, run_bind_of_run ho]
  exact run_operatorsRule_of_ends true operand Strength.least ends

theorem takesOperand_path
    (readable : path.IsReadable .inExpr (upTo (depth + 1)).TakesArg)
    (noLoneTry : path.startsWithTry = true → 2 ≤ path.segments.length) :
    (upTo (depth + 2)).TakesOperand path.tokens := by
  refine ⟨Path.tokens_ne_nil readable.ne, fun after ends => ?_⟩
  have follows : FollowsPath after := .ends ends
  obtain ⟨tokens, ht⟩ := exists_run_pathExpr true readable noLoneTry follows
  exact ⟨_, run_operandRule true (readable.startsPathExpr noLoneTry follows) ht
    (run_trailersRule_of_ends _ ends)⟩

theorem exists_run_callArgs {content : TokenStream} (listed : Listed rules.TakesExpr content)
    (rest : TokenStream) : ∃ args, StateT.run rules.callArgs (.group .parenthesis content :: rest) =
      some (args, rest) := by
  have items : Listed (TakesItem atEnd (do return (← rules.expr true).tokens) []) content := by
    refine listed.imp fun tokens h after follows => ?_
    have ends : EndsExpr after := by
      rcases follows with rfl | ⟨joint, more, rfl⟩
      · exact .nil
      · exact .comma joint more
    obtain ⟨expr, he⟩ := h.2 after ends
    refine ⟨?_, expr.tokens, by rw [run_bind_of_run he]; rfl⟩
    obtain ⟨token, others, rfl⟩ := List.exists_cons_of_ne_nil h.1
    rfl
  obtain ⟨args, ha⟩ := takes_separated rfl (fun _ _ => rfl) items
  rw [List.append_nil] at ha
  have list : StateT.run (commaList do return (← rules.expr true).tokens) content =
      some (itemTokens "," args, []) := by
    rw [commaList, run_bind_of_run ha]
    rfl
  refine ⟨[.group .parenthesis (itemTokens "," args)], ?_⟩
  rw [callArgs, groupToken, run_bind_of_run (run_group list)]
  rfl

theorem takesOperand_call {content : TokenStream}
    (readable : path.IsReadable .inExpr (upTo (depth + 2)).TakesArg)
    (noLoneTry : path.startsWithTry = true → 2 ≤ path.segments.length)
    (listed : Listed (upTo (depth + 1)).TakesExpr content) :
    (upTo (depth + 3)).TakesOperand (path.tokens ++ [TokenStream.parens content]) := by
  refine ⟨by simp, fun after ends => ?_⟩
  have follows : FollowsPath (.group .parenthesis content :: after) := .call content after
  obtain ⟨tokens, ht⟩ := exists_run_pathExpr true readable noLoneTry follows
  obtain ⟨args, ha⟩ := exists_run_callArgs listed after
  have call : StateT.run ((upTo (depth + 1)).trailersRule (.compound .path tokens))
      (.group .parenthesis content :: after) =
        some (.compound .call (tokens ++ args), after) := by
    rw [trailersRule]
    simp [ha]
    exact run_trailersRule_of_ends _ ends
  have source : path.tokens ++ [TokenStream.parens content] ++ after =
      path.tokens ++ .group .parenthesis content :: after := by
    simp [TokenStream.parens]
  refine ⟨.compound .call (tokens ++ args), ?_⟩
  rw [source]
  exact run_operandRule true (readable.startsPathExpr noLoneTry follows) ht call

theorem TakesOperand.deref (h : (upTo depth).TakesOperand tokens) :
    (upTo (depth + 1)).TakesOperand (.punct '*' false :: tokens) := by
  refine ⟨List.cons_ne_nil _ _, fun after ends => ?_⟩
  obtain ⟨operand, ho⟩ := h.2 after ends
  refine ⟨.compound .unary (TokenStream.symbol "*" ++ operand.tokens), ?_⟩
  change StateT.run ((upTo depth).operandRule true) (.punct '*' false :: (tokens ++ after)) = _
  rw [operandRule, run_bind_of_run (run_outerAttributes rfl)]
  simp [startsWithSymbol, peekSymbolOf, symbolOf, ho]

theorem TakesOperand.mutRef (h : (upTo depth).TakesOperand tokens) :
    (upTo (depth + 1)).TakesOperand (.punct '&' false :: .word "mut" :: tokens) := by
  refine ⟨List.cons_ne_nil _ _, fun after ends => ?_⟩
  obtain ⟨operand, ho⟩ := h.2 after ends
  refine ⟨.compound .reference (TokenStream.symbol "&" ++ [.word "mut"] ++ operand.tokens), ?_⟩
  change StateT.run ((upTo depth).operandRule true)
    (.punct '&' false :: .word "mut" :: (tokens ++ after)) = _
  rw [operandRule, run_bind_of_run (run_outerAttributes rfl)]
  simp [startsWithSymbol, ho]

theorem TakesOperand.ref {word : String} (h : (upTo depth).TakesOperand (.word word :: tokens))
    (noRaw : word ≠ "raw") (noMut : word ≠ "mut") :
    (upTo (depth + 1)).TakesOperand (.punct '&' false :: .word word :: tokens) := by
  refine ⟨List.cons_ne_nil _ _, fun after ends => ?_⟩
  obtain ⟨operand, ho⟩ := h.2 after ends
  refine ⟨.compound .reference (TokenStream.symbol "&" ++ operand.tokens), ?_⟩
  change StateT.run ((upTo depth).operandRule true)
    (.punct '&' false :: .word word :: (tokens ++ after)) = _
  rw [operandRule, run_bind_of_run (run_outerAttributes rfl)]
  rw [List.cons_append] at ho
  simp [startsWithSymbol, noRaw, noMut, ho]

private theorem run_afterPoint {name : String} (h : Word.isIdent name = true) (expr : TokenStream)
    {after : TokenStream} (ends : EndsExpr after) :
    StateT.run (rules.afterPoint expr) (.word name :: after) =
      some (.compound .field (expr ++ [.word name]), after) := by
  have named (next : TokenStream × Bool → Parser Expr) :
      StateT.run (member >>= next) (.word name :: after) =
        StateT.run (next ([.word name], true)) after := by
    refine run_bind_of_run ?_
    change StateT.run (check (Word.isIdent name) >>= fun _ =>
      pure (([.word name], true) : TokenStream × Bool)) after = _
    rw [h]
    rfl
  have noAwait : (name == "await") = false := by
    simpa using Word.eq_iff_false_of_isIdent h (by decide)
  rw [afterPoint, run_peekKeyword_bind]
  simp only [List.drop_zero, noAwait, Bool.false_eq_true, if_false]
  rw [named]
  cases ends <;> rfl

theorem takesOperand_field
    (readable : path.IsReadable .inExpr (upTo (depth + 2)).TakesArg)
    (noTry : path.startsWithTry = false) {name : String} (h : Word.isIdent name = true) :
    (upTo (depth + 3)).TakesOperand (path.tokens ++ [.punct '.' false, .word name]) := by
  refine ⟨by simp, fun after ends => ?_⟩
  have follows : FollowsPath (.punct '.' false :: .word name :: after) := .point _
  have noLoneTry : path.startsWithTry = true → 2 ≤ path.segments.length := by simp [noTry]
  obtain ⟨tokens, ht⟩ := exists_run_pathExpr true readable noLoneTry follows
  have point : StateT.run ((upTo (depth + 1)).trailersRule (.compound .path tokens))
      (.punct '.' false :: .word name :: after) =
        some (.compound .field (tokens ++ TokenStream.symbol "." ++ [.word name]), after) := by
    rw [trailersRule]
    simp [startsWithSymbol, run_afterPoint h _ ends]
    exact run_trailersRule_of_ends _ ends
  refine ⟨.compound .field (tokens ++ TokenStream.symbol "." ++ [.word name]), ?_⟩
  rw [List.append_assoc]
  exact run_operandRule true (readable.startsPathExpr noLoneTry follows) ht point

end UpTo

end Rules

/-! ### Expressions -/

namespace TokenStream

/-- Tokens that are read as an expression. -/
def IsExpr (tokens : TokenStream) : Prop :=
  (((Rules.forTokens tokens).expr true).run? tokens).isSome = true

instance : DecidablePred IsExpr := fun _ => inferInstanceAs (Decidable (_ = true))

/-- Tokens that are read as an expression in a list, with rules of little depth. -/
def IsSimpleExpr (tokens : TokenStream) : Prop :=
  ∀ depth, (Rules.upTo (depth + 8)).TakesExpr tokens

end TokenStream

/-- **A call is an expression** if its arguments are simple ones, and the path of the function can
be read in expressions. -/
theorem Path.IsReadable.isExpr_call {path : Path}
    (readable : path.IsReadable .inExpr TokenStream.IsArgument)
    (noLoneTry : path.startsWithTry = true → 2 ≤ path.segments.length) {content : TokenStream}
    (listed : Listed TokenStream.IsSimpleExpr content) :
    TokenStream.IsExpr (path.tokens ++ [TokenStream.parens content]) := by
  set call := path.tokens ++ [TokenStream.parens content]
  have count : countAll path.tokens < countAll call := by
    simp only [call, countAll_append, countAll, TokenStream.parens, TokenTree.count]
    omega
  obtain ⟨depth, hd⟩ : ∃ depth, 8 * countAll call + 8 = depth + 12 :=
    ⟨8 * countAll call - 4, by omega⟩
  have operand : (Rules.upTo (depth + 11)).TakesOperand call :=
    Rules.takesOperand_call (readable.upTo (by omega)) noLoneTry
      (listed.imp fun _ h => h (depth + 1))
  obtain ⟨expr, he⟩ := operand.takesExpr.2 [] .nil
  rw [List.append_nil] at he
  have rules : Rules.forTokens call = Rules.upTo (depth + 12) := by rw [Rules.forTokens, hd]
  rw [TokenStream.IsExpr, run?, rules, he]
  rfl

end KeyedCoding
