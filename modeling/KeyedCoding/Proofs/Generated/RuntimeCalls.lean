import KeyedCoding.Proofs.Generated.Alignment
import KeyedCoding.Proofs.Generated.MethodNames
import KeyedCoding.Proofs.Grammar.PathCalls
import KeyedCoding.Proofs.Grammar.WordPaths

/-!
# The path of the runtime library in generated code

The code for a class names traits of the runtime library, and calls functions of them. Both are
written below the path that settings give. This path is checked once, as a path in a type, where its
arguments need no `::` before them. In a call they do: without it `<` and `>` compare. So accepted
settings can give calls that are no expressions, but only if an argument stands without `::`.

## Main definitions

* `Artifact.runtimeCalls`: the calls of the library.
* `Artifact.runtimeTraits`: the traits of the library.

## Main results

* `EncodeBody.isExpr_callTokens`, `DecodeBody.isExpr_callTokens`: a call is an expression if the
  path can be read in expressions.
* `runtimeCalls_areExpr`: when all calls are expressions, and all traits are types.
* `runtimeCalls_compare`: accepted settings with a call that is no expression.
-/

namespace KeyedCoding

open TokenStream

/-! ### Lists of tokens -/

theorem listed_commaSeparated {item : TokenStream → Prop} {items : List TokenStream}
    (h : ∀ tokens ∈ items, item tokens) : Listed item (commaSeparated items) := by
  induction items with
  | nil => exact .nil
  | cons first rest ih =>
    obtain ⟨hf, hr⟩ := List.forall_mem_cons.mp h
    cases rest with
    | nil => exact .last hf
    | cons second others => exact .cons hf (ih hr)

theorem listed_withCommas {item : TokenStream → Prop} {items : List TokenStream}
    (h : ∀ tokens ∈ items, item tokens) : Listed item (withCommas items) := by
  induction items with
  | nil => exact .nil
  | cons first rest ih =>
    obtain ⟨hf, hr⟩ := List.forall_mem_cons.mp h
    exact .cons hf (ih hr)

/-! ### Segments and paths -/

namespace Segment

variable {name : String} {turbofish : Bool} {ty : Ty}

/-- A segment with a type as its only argument. -/
theorem isReadable_applied_type {style : PathStyle} (ident : Word.isIdent name = true)
    (fits : style = .inType ∨ turbofish = true) (h : IsArgument ty.tokens) :
    (applied name turbofish [.type ty] false).IsReadable style IsArgument := by
  refine ⟨.inl ident, fits, List.forall_mem_singleton.mpr ?_⟩
  rwa [GenericArg.tokens]

theorem tokens_applied_type : (applied name turbofish [.type ty] false).tokens =
    word name ++ (if turbofish then symbol "::" else []) ++ symbol "<" ++ ty.tokens ++
      symbol ">" := by
  simp [tokens, GenericArg.placed, GenericArg.tokens, GenericArg.isLifetime, PlacedArg.arrange,
    PlacedArg.join, word]

end Segment

namespace Path

variable {leading : Bool} {words : List String}

theorem isReadable_ofWords {style : PathStyle} {isArg : TokenStream → Prop} (ne : words ≠ [])
    (idents : ∀ word ∈ words, Word.isIdent word = true) :
    (ofWords leading words).IsReadable style isArg := by
  refine ⟨by simpa [ofWords] using ne, fun segment hs => ?_⟩
  obtain ⟨word, hw, rfl⟩ := List.mem_map.mp hs
  exact .inl (idents word hw)

theorem startsWithTry_ofWords (idents : ∀ word ∈ words, Word.isIdent word = true) :
    (ofWords leading words).startsWithTry = false := by
  cases words with
  | nil => simp [ofWords, startsWithTry]
  | cons word rest =>
    have ident := idents word List.mem_cons_self
    simp (disch := first | assumption | decide) [ofWords, startsWithTry, Segment.name]

end Path

/-! ### Arguments of calls -/

namespace Rules

variable (depth : Nat) {words : List String}

private theorem takesOperand_ofWords (leading : Bool) (ne : words ≠ [])
    (idents : ∀ word ∈ words, Word.isIdent word = true) :
    (upTo (depth + 2)).TakesOperand (Path.ofWords leading words).tokens :=
  takesOperand_path (Path.isReadable_ofWords ne idents)
    (by simp [Path.startsWithTry_ofWords idents])

/-- A reference to a field of `self`. -/
private theorem takesOperand_selfField (field : Ident) : (upTo (depth + 4)).TakesOperand
    (symbol "&" ++ word "self" ++ symbol "." ++ field.tokens) := by
  have selfPath : (⟨false, [.plain "self"]⟩ : Path).IsReadable .inExpr
      (upTo (depth + 2)).TakesArg :=
    ⟨List.cons_ne_nil _ _, List.forall_mem_singleton.mpr (.inr (.inr (by decide)))⟩
  have selected := takesOperand_field selfPath rfl field.isIdent_text
  exact TakesOperand.ref selected (by decide) (by decide)

end Rules

namespace TokenStream

variable {words : List String}

theorem isSimpleExpr_ofWords (leading : Bool) (ne : words ≠ [])
    (idents : ∀ word ∈ words, Word.isIdent word = true) :
    IsSimpleExpr (Path.ofWords leading words).tokens :=
  fun depth => (Rules.takesOperand_ofWords (depth + 5) leading ne idents).takesExpr

theorem isSimpleExpr_selfField (field : Ident) :
    IsSimpleExpr (symbol "&" ++ word "self" ++ symbol "." ++ field.tokens) :=
  fun depth => (Rules.takesOperand_selfField (depth + 3) field).takesExpr

/-- A field of `self` as an optional reference. -/
theorem isSimpleExpr_asRef (field : Ident) : IsSimpleExpr (below optionPath "as_ref" ++
    [parens (symbol "&" ++ word "self" ++ symbol "." ++ field.tokens)]) := by
  intro depth
  have idents : ∀ word ∈ ["core", "option", "Option", "as_ref"], Word.isIdent word = true := by
    decide
  have value : (Rules.upTo (depth + 5)).TakesExpr
      (symbol "&" ++ word "self" ++ symbol "." ++ field.tokens) :=
    (Rules.takesOperand_selfField _ field).takesExpr
  have path : (Path.ofWords true ["core", "option", "Option", "as_ref"]).IsReadable .inExpr
      (Rules.upTo (depth + 6)).TakesArg := Path.isReadable_ofWords (List.cons_ne_nil _ _) idents
  exact (Rules.takesOperand_call path (by simp [Path.startsWithTry_ofWords idents])
    (.last value)).takesExpr

/-- The encoder that a function gets. -/
theorem isSimpleExpr_encoder :
    IsSimpleExpr (symbol "&" ++ word "mut" ++ symbol "*" ++ word "encoder") := by
  intro depth
  have encoder : (Rules.upTo (depth + 5)).TakesOperand (Path.ofWords false ["encoder"]).tokens :=
    Rules.takesOperand_ofWords _ false (List.cons_ne_nil _ _) (by decide)
  exact encoder.deref.mutRef.takesExpr

/-- A case of the keys. -/
theorem isSimpleExpr_key (keys field : Ident) : IsSimpleExpr (below keys.tokens field.text) := by
  have idents : ∀ word ∈ [keys.text, field.text], Word.isIdent word = true := by
    simp [Ident.isIdent_text]
  have tokens : below keys.tokens field.text =
      (Path.ofWords false [keys.text, field.text]).tokens := rfl
  rw [tokens]
  exact isSimpleExpr_ofWords false (List.cons_ne_nil _ _) idents

end TokenStream

/-! ### Calls of the runtime library -/

/-- The call of a function of a trait, which is named below a path. -/
theorem Path.IsReadable.isExpr_traitCall {path : Path}
    (readable : path.IsReadable .inExpr IsArgument) {trait : String}
    (ident : Word.isIdent trait = true) {segment : Segment}
    (h : segment.IsReadable .inExpr IsArgument) {content : TokenStream}
    (listed : Listed IsSimpleExpr content) :
    IsExpr (below path.tokens trait ++ symbol "::" ++ segment.tokens ++ [parens content]) := by
  have extended := (readable.extend (.plain trait) (.inl ident)).extend segment h
  have tokens : below path.tokens trait ++ symbol "::" ++ segment.tokens =
      ((path.extend (.plain trait)).extend segment).tokens := by
    rw [Path.tokens_extend (by simp [Path.extend]), Path.tokens_extend readable.ne]
    rfl
  rw [tokens]
  exact extended.isExpr_call (by simp [Path.extend]) listed

theorem EncodeBody.isExpr_callTokens {body : EncodeBody}
    (runtime : body.runtime.IsReadable .inExpr IsArgument) {statement : EncodeStatement}
    (h : statement ∈ body.statements) : IsExpr (body.callTokens statement) := by
  have used : body.encoderName = "encoder" := by
    rw [encoderName, List.isEmpty_eq_false_iff.mpr (List.ne_nil_of_mem h)]
    rfl
  have callee (name : String) (ident : Word.isIdent name = true) {content : TokenStream}
      (listed : Listed IsSimpleExpr content) :
      IsExpr (below body.encoderTrait name ++ [parens content]) := by
    have function : (Segment.plain name).IsReadable .inExpr IsArgument := .inl ident
    have call := runtime.isExpr_traitCall (by decide : Word.isIdent "KeyedEncoder" = true)
      function listed
    rwa [Segment.tokens] at call
  have key := isSimpleExpr_key body.keys statement.field
  unfold callTokens
  rw [used]
  cases statement.presence with
  | required =>
    refine callee "encode" (by decide) (listed_commaSeparated ?_)
    simpa using ⟨isSimpleExpr_encoder, key, isSimpleExpr_selfField statement.field⟩
  | ifPresent =>
    refine callee "encode_if_present" (by decide) (listed_withCommas ?_)
    simpa using ⟨isSimpleExpr_encoder, key, isSimpleExpr_asRef statement.field⟩

theorem DecodeBody.isExpr_callTokens {body : DecodeBody}
    (runtime : body.runtime.IsReadable .inExpr IsArgument) {statement : DecodeStatement}
    (h : statement ∈ body.statements) (ty : IsArgument statement.ty.tokens) :
    IsExpr (body.callTokens statement) := by
  have used : body.decoderName = "decoder" := by
    rw [decoderName, List.isEmpty_eq_false_iff.mpr (List.ne_nil_of_mem h)]
    rfl
  have reader : Word.isIdent (readerName statement.presence) = true := by
    cases statement.presence <;> decide
  have function : (Segment.applied (readerName statement.presence) true [.type statement.ty]
      false).IsReadable .inExpr IsArgument :=
    Segment.isReadable_applied_type reader (.inr rfl) ty
  have listed : Listed IsSimpleExpr
      (commaSeparated [word body.decoderName, below body.keys.tokens statement.field.text]) := by
    have decoder : IsSimpleExpr (word "decoder") :=
      isSimpleExpr_ofWords false (List.cons_ne_nil "decoder" []) (by decide)
    rw [used]
    refine listed_commaSeparated ?_
    simpa using ⟨decoder, isSimpleExpr_key body.keys statement.field⟩
  have call := runtime.isExpr_traitCall (by decide : Word.isIdent "KeyedDecoder" = true)
    function listed
  rw [Segment.tokens_applied_type] at call
  simpa [callTokens, decoderTrait, below] using call

/-! ### Traits of the runtime library -/

/-- A trait for the keys of a class: the trait with `Self::Keys` as its argument. -/
def TokenStream.keyed (trait : TokenStream) : TokenStream :=
  trait ++ symbol "<" ++ below selfType "Keys" ++ symbol ">"

namespace Path

variable {path : Path}

theorem startsWithTry_extend (ne : path.segments ≠ []) (segment : Segment) :
    (path.extend segment).startsWithTry = path.startsWithTry := by
  obtain ⟨leading, segments⟩ := path
  obtain ⟨first, rest, rfl⟩ := List.exists_cons_of_ne_nil ne
  rfl

/-- What stands below a path is a type if and only if the path does not start with `try`. -/
theorem IsReadable.isType_extend_iff (readable : path.IsReadable .inType IsArgument)
    {segment : Segment} (h : segment.IsReadable .inType IsArgument) :
    IsType (path.tokens ++ symbol "::" ++ segment.tokens) ↔ path.startsWithTry = false := by
  rw [← tokens_extend readable.ne, (readable.extend segment h).isType_iff,
    startsWithTry_extend readable.ne]

/-- A trait that is named below a path. -/
theorem IsReadable.isType_below_iff (readable : path.IsReadable .inType IsArgument) {name : String}
    (ident : Word.isIdent name = true) :
    IsType (below path.tokens name) ↔ path.startsWithTry = false := by
  have plain : (Segment.plain name).IsReadable .inType IsArgument := .inl ident
  simpa [below, Segment.tokens, word] using readable.isType_extend_iff plain

/-- A trait for the keys of a class. -/
theorem IsReadable.isType_keyed_iff (readable : path.IsReadable .inType IsArgument) {name : String}
    (ident : Word.isIdent name = true) :
    IsType (keyed (below path.tokens name)) ↔ path.startsWithTry = false := by
  have keys : IsArgument (Ty.path false [.plain "Self", .plain "Keys"]).tokens := by
    have words : (⟨false, [.plain "Self", .plain "Keys"]⟩ : Path).IsReadable .inType
        IsArgument := by
      refine ⟨List.cons_ne_nil _ _, List.forall_mem_cons.mpr ⟨.inr (.inl rfl), ?_⟩⟩
      exact List.forall_mem_singleton.mpr (.inl (by decide))
    exact words.isArgument rfl
  have applied : (Segment.applied name false [.type (.path false [.plain "Self", .plain "Keys"])]
      false).IsReadable .inType IsArgument :=
    Segment.isReadable_applied_type ident (.inl rfl) keys
  have type := readable.isType_extend_iff applied
  rw [Segment.tokens_applied_type] at type
  simpa [keyed, below, selfType, Ty.tokens, Segment.pathTokens, Segment.tokens, word] using type

end Path

namespace Artifact

/-- The calls of the runtime library in the code for a class: one for each field that is encoded,
and one for each field that is decoded. -/
def runtimeCalls (artifact : Artifact) : List TokenStream :=
  (artifact.encode.toList.flatMap fun body => body.statements.map body.callTokens) ++
    artifact.decode.toList.flatMap fun body => body.statements.map body.callTokens

/-- The traits of the runtime library in the code for a class: those that are implemented, and those
that encoders and decoders must have. -/
def runtimeTraits (artifact : Artifact) : List TokenStream :=
  [below artifact.keyMapping.runtime.tokens "CodingKey"] ++
    (artifact.encode.toList.flatMap fun body =>
      [Conformance.encodable.traitPath artifact.runtime, keyed body.encoderTrait]) ++
    artifact.decode.toList.flatMap fun body =>
      [Conformance.decodable.traitPath artifact.runtime, keyed body.decoderTrait]

variable {context : Context} {mode : Mode} {fields : List Field}

theorem isExpr_of_mem_runtimeCalls (runtime : context.runtime.IsReadable .inExpr IsArgument)
    (types : ∀ field ∈ fields, IsArgument field.valueType.tokens) :
    ∀ call ∈ (ofFields context mode fields).runtimeCalls, IsExpr call := by
  intro call h
  simp only [runtimeCalls, List.mem_append, List.mem_flatMap, Option.mem_toList] at h
  rcases h with ⟨body, hb, hc⟩ | ⟨body, hb, hc⟩
  · obtain rfl := encode_ofFields hb
    obtain ⟨statement, hs, rfl⟩ := List.mem_map.mp hc
    exact EncodeBody.isExpr_callTokens runtime hs
  · obtain rfl := decode_ofFields hb
    obtain ⟨statement, hs, rfl⟩ := List.mem_map.mp hc
    obtain ⟨field, hf, rfl⟩ := List.mem_map.mp hs
    exact DecodeBody.isExpr_callTokens runtime hs (types field hf)

theorem isType_iff_of_mem_runtimeTraits (runtime : context.runtime.IsReadable .inType IsArgument) :
    ∀ trait ∈ (ofFields context mode fields).runtimeTraits,
      (IsType trait ↔ context.runtime.startsWithTry = false) := by
  intro trait h
  simp only [runtimeTraits, List.mem_append, List.mem_flatMap, Option.mem_toList,
    List.mem_cons, List.not_mem_nil, or_false] at h
  rcases h with (rfl | ⟨body, hb, rfl | rfl⟩) | ⟨body, hb, rfl | rfl⟩
  · exact runtime.isType_below_iff (by decide)
  · exact runtime.isType_below_iff (by decide)
  · obtain rfl := encode_ofFields hb
    exact runtime.isType_keyed_iff (by decide)
  · exact runtime.isType_below_iff (by decide)
  · obtain rfl := decode_ofFields hb
    exact runtime.isType_keyed_iff (by decide)

end Artifact

/-! ### A path with an argument -/

/-- The standard settings with another path of the runtime library. -/
def Settings.withRuntime (path : String) : Settings := { standard with runtimePath := path }

theorem Settings.resolve_withRuntime {text : String} {path : Path}
    (h : Path.ofText? text = some path) :
    (withRuntime text).resolve = .ok { ResolvedSettings.standard with runtime := path } := by
  have standard := resolve_eq_ok_iff.mp resolve_standard
  exact resolve_eq_ok_iff.mpr { standard with runtime_eq := h }

namespace Path

/-- The path `rt::Lib` with the argument `u8`, and perhaps `::` before it. -/
def applied (turbofish : Bool) : Path :=
  ⟨false, [.plain "rt", .applied "Lib" turbofish [.type (.named "u8")] false]⟩

private def isApplied (turbofish : Bool) : Path → Bool
  | ⟨false, [.plain "rt", .applied "Lib" colons [.type (.path false [.plain "u8"])] false]⟩ =>
    colons == turbofish
  | _ => false

private theorem eq_applied {turbofish : Bool} {read : Option Path}
    (h : read.any (isApplied turbofish) = true) : read = some (applied turbofish) := by
  obtain ⟨path, rfl, hp⟩ := (Option.any_eq_true _ _).mp h
  unfold isApplied at hp
  split at hp
  · rw [beq_iff_eq] at hp
    rw [hp]
    rfl
  · exact nomatch hp

end Path

/-! ### When calls are expressions -/

/-- **The path of the runtime library can be called if its arguments stand behind `::`.** Let
settings be accepted, and let the arguments of the path and the types of values be written as
arguments. Then every call of the library in the code for a class is an expression if the path has
`::` before each list of arguments. The traits of the library are types if and only if the path
does not start with `try`.

The arguments of an accepted path are kept as lifetimes, types and expressions, and the tokens of
the path are made anew from them. That these tokens read as arguments again, whatever follows, is a
condition, since it depends on how every kind of type and expression is written. Lifetimes and
types that paths name always meet it (`GenericArg.isArgument_of_isNamed`), and so does a path
without arguments. -/
theorem runtimeCalls_areExpr {settings : Settings} {resolved : ResolvedSettings}
    (accepted : settings.resolve = .ok resolved) {declaration : Declaration}
    (isClass : declaration.kind = .classType) (mode : Mode)
    (runtimeArgs : ∀ segment ∈ resolved.runtime.segments, ∀ arg ∈ segment.args,
      IsArgument arg.tokens)
    (types : ∀ field ∈ Generator.fields resolved declaration,
      IsArgument field.valueType.tokens) :
    ∃ artifact, Generator.generate resolved declaration mode = .ok artifact ∧
      ((∀ segment ∈ resolved.runtime.segments, segment.isTurbofished = true) →
        ∀ call ∈ artifact.runtimeCalls, IsExpr call) ∧
      ∀ trait ∈ artifact.runtimeTraits,
        (IsType trait ↔ resolved.runtime.startsWithTry = false) := by
  have words := Path.isReadable_of_ofText? (Settings.resolve_eq_ok_iff.mp accepted).runtime_eq
  refine ⟨_, Generator.generate_of_isClass isClass resolved mode, fun turbofished => ?_, ?_⟩
  · have inExpr : resolved.runtime.IsReadable .inExpr IsArgument :=
      words.of_fits (.inr turbofished) runtimeArgs
    exact Artifact.isExpr_of_mem_runtimeCalls inExpr types
  · have inType : resolved.runtime.IsReadable .inType IsArgument :=
      words.of_fits (.inl rfl) runtimeArgs
    exact Artifact.isType_iff_of_mem_runtimeTraits inType

theorem runtimeCalls_areExpr_person : ∃ resolved artifact,
    (Settings.withRuntime "rt::Lib::<u8>").resolve = .ok resolved ∧
      Generator.generate resolved .person .both = .ok artifact ∧
      artifact.runtimeCalls.length = 8 ∧ (∀ call ∈ artifact.runtimeCalls, IsExpr call) ∧
      artifact.runtimeTraits.length = 5 ∧ ∀ trait ∈ artifact.runtimeTraits, IsType trait := by
  have read : Path.ofText? "rt::Lib::<u8>" = some (.applied true) :=
    Path.eq_applied (by decide +kernel)
  have accepted := Settings.resolve_withRuntime read
  have u8 : IsArgument (Ty.named "u8").tokens := Ty.isArgument_of_isNamed (by decide)
  have runtimeArgs : ∀ segment ∈ (Path.applied true).segments, ∀ arg ∈ segment.args,
      IsArgument arg.tokens := by
    simpa [Path.applied, Segment.args, GenericArg.tokens] using u8
  have types : ∀ field ∈ Generator.fields { ResolvedSettings.standard with
      runtime := .applied true } .person, IsArgument field.valueType.tokens := by
    have named : ∀ field ∈ Generator.fields { ResolvedSettings.standard with
        runtime := .applied true } .person, field.valueType.isNamed = true := by decide
    exact fun field hf => Ty.isArgument_of_isNamed (named field hf)
  obtain ⟨artifact, generated, calls, traits⟩ :=
    runtimeCalls_areExpr accepted rfl .both runtimeArgs types
  refine ⟨_, artifact, accepted, generated, ?_, calls (by decide), ?_,
    fun trait h => (traits trait h).mpr rfl⟩
  all_goals
    cases generated
    rfl

/-- Without `::` before its argument the path is accepted as well, but what should be a call is a
comparison of three values, and no expression. -/
theorem runtimeCalls_compare : ∃ resolved artifact call,
    (Settings.withRuntime "rt::Lib<u8>").resolve = .ok resolved ∧
      Declaration.note.kind = .classType ∧
      (Generator.fields resolved .note).map Field.name = ["note"] ∧
      Generator.generate resolved .note .both = .ok artifact ∧
      call ∈ artifact.runtimeCalls ∧ ¬IsExpr call := by
  have read : Path.ofText? "rt::Lib<u8>" = some (.applied false) :=
    Path.eq_applied (by decide +kernel)
  refine ⟨_, _, _, Settings.resolve_withRuntime read, rfl, rfl, rfl, List.mem_cons_self, ?_⟩
  decide +kernel

end KeyedCoding
