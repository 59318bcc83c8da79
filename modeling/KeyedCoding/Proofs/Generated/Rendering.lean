import KeyedCoding.Proofs.Generated.Methods

/-!
# Generation with accepted settings

With accepted settings there is code for every class, and all of it can be written: its setters and
its keys have identifiers. A setter that is named by a keyword is raw, except for one keyword that
reads as an identifier: `gen`.

## Main definitions

* `Artifact.IsRendered`: all of the code can be written.
* `Generator.NeverFails`: what a generator does for every declaration.

## Main results

* `neverFails_of_accepted`: a generator with accepted settings never fails.
* `plain_keyword_setter`: accepted settings with which a setter is named by a keyword and is plain.
-/

namespace KeyedCoding

open TokenStream

/-- Whether all of the code for a class can be written, and every part of it. -/
structure Artifact.IsRendered (artifact : Artifact) : Prop where
  whole : artifact.tokens?.isSome = true
  part : ∀ fragment ∈ artifact.fragments, fragment.tokens?.isSome = true

/-- What a generator with given settings does for every declaration and in every mode, whoever
observes it: it gives code for classes and for nothing else, and has an identifier for all that it
names. -/
structure Generator.NeverFails {σ : Type} (settings : Settings) (generator : Generator σ) :
    Prop where
  /-- Code is refused for what is no class. -/
  error_iff : ∀ (observer : Option (TraceEvent → σ → σ)) declaration mode state,
    ((({ generator with observer } : Generator σ).run declaration mode).run state).1 =
      .error .onlyForClasses ↔ declaration.kind ≠ .classType
  /-- The code for a class can be written. -/
  rendered : ∀ (observer : Option (TraceEvent → σ → σ)) declaration mode state,
    declaration.kind = .classType → ∃ artifact,
      ((({ generator with observer } : Generator σ).run declaration mode).run state).1 =
        .ok artifact ∧
      artifact.IsRendered ∧
      match settings.keysIdent with
      | some text => Ident.ofText? text = some artifact.keyMapping.ident
      | none => artifact.keyMapping.ident = declaration.ident.keysIdent
  /-- A setter is named by the prefix and the field. The name is a word, and one that may be raw if
  the setter is. The setter is raw exactly if the name is a keyword, unless the name is `gen`: this
  keyword is written plainly. -/
  setter : ∀ ident : Ident, ∃ setter, ident.setterIdent? settings.setterPrefix = some setter ∧
    setter.name = settings.setterPrefix ++ ident.name ∧
    Word.isWord setter.name.toList = true ∧
    (setter.raw = true → setter.name ∉ ["_", "super", "self", "Self", "crate"]) ∧
    ((setter.raw = true ↔ Word.isKeyword (settings.setterPrefix ++ ident.name) = true) ↔
      settings.setterPrefix ++ ident.name ≠ "gen")
  /-- The name of keys that follows from that of a class is an identifier. -/
  keys : ∀ ident : Ident, ident.keysIdent.text = ident.name ++ "CodingKeys" ∧
    Word.isWord ident.keysIdent.text.toList = true ∧ Word.isKeyword ident.keysIdent.text = false

/-- The name of keys is no keyword: each keyword is shorter than its ending. -/
theorem Ident.not_isKeyword_append_keysEnding (name : String) :
    Word.isKeyword (name ++ keysEnding) = false := by
  rw [Bool.eq_false_iff, Ne, Word.isKeyword_iff, not_isReserved_append_keysEnding]
  rintro (reserved | same)
  · exact Bool.false_ne_true reserved
  · have length := congrArg String.length same
    have ending : keysEnding.length = 10 := by decide
    have short : "gen".length = 3 := by decide
    rw [String.length_append] at length
    omega

/-- The code for a class can be written if there are all methods. -/
theorem Artifact.isRendered_of_methods? {artifact : Artifact} {methods : List Method}
    (h : artifact.initializer.methods? = some methods) : artifact.IsRendered := by
  have hi : artifact.initializer.tokens?.isSome = true := by
    rw [Initializer.tokens?_of_methods? h, Option.isSome_some]
  refine ⟨?_, fun fragment hf => ?_⟩
  · rw [tokens?, Option.isSome_map, hi]
  · cases fragment with
    | keyMapping mapping => rfl
    | initializer initializer =>
      have he : initializer = artifact.initializer := by
        simpa [fragments] using hf
      exact he ▸ hi
    | encode body => rfl
    | decode body => rfl

/-- **Accepted settings never make generation fail.** Let settings come from a document, or be
accepted as they are. There is a generator with these settings. For what is no class it gives an
error, and for every class it gives code that can be written. Every field has a setter, and the
keys of every class have an identifier. A setter is raw if its name is a keyword, unless this is
`gen`. -/
theorem neverFails_of_accepted {σ : Type} {settings : Settings}
    (accepted : (∃ source, Settings.ofDocument source = .ok settings) ∨
      ∃ resolved, settings.resolve = .ok resolved) :
    ∃ generator : Generator σ, Generator.ofSettings settings = .ok generator ∧
      generator.NeverFails settings := by
  have resolves : ∃ resolved, settings.ResolvesTo resolved := by
    rcases accepted with ⟨source, h⟩ | ⟨resolved, h⟩
    · exact (Settings.ofDocument_eq_ok_iff.mp h).2
    · exact ⟨resolved, Settings.resolve_eq_ok_iff.mp h⟩
  obtain ⟨resolved, hr⟩ := resolves
  refine ⟨⟨resolved, none⟩, ?_, ?_, ?_, ?_, ?_⟩
  · rw [Generator.ofSettings, Settings.resolve_eq_ok_iff.mpr hr]
    rfl
  · intro observer declaration mode state
    rw [Generator.run_eq]
    split <;> simp_all
  · intro observer declaration mode state isClass
    rw [Generator.run_eq, if_pos isClass]
    refine ⟨_, rfl, ?_, ?_⟩
    · obtain ⟨setters, hm, -⟩ := Generator.exists_methods? hr declaration
      exact Artifact.isRendered_of_methods? hm
    · have hk := hr.keysIdent_eq
      simp only [Artifact.ofFields, KeyMapping.ofFields, Generator.context]
      cases hs : settings.keysIdent <;> cases hc : resolved.keysIdent <;> simp_all
  · intro ident
    obtain ⟨setter, hs, hname, hraw⟩ := hr.exists_setterIdent? ident
    rw [hr.setterPrefix_eq] at hs
    refine ⟨setter, hs, hname, setter.isWord_name, setter.name_notMem_unrawable, ?_⟩
    rw [hraw, hname]
    exact Word.isReserved_iff_isKeyword_iff
  · intro ident
    have hw := ident.keysIdent.isWord_name
    exact ⟨rfl, hw, Ident.not_isKeyword_append_keysEnding ident.name⟩

/-- With this document the setter of a field `f` is `r#if`. -/
theorem neverFails_of_accepted_keyword :
    Settings.ofDocument "setter_prefix = \"i\"" =
        .ok { Settings.standard with setterPrefix := "i" } ∧
      ∃ generator : Generator Unit,
        Generator.ofSettings { Settings.standard with setterPrefix := "i" } = .ok generator ∧
          generator.NeverFails { Settings.standard with setterPrefix := "i" } := by
  have read : Settings.ofDocument "setter_prefix = \"i\"" =
      .ok { Settings.standard with setterPrefix := "i" } := by decide +kernel
  exact ⟨read, neverFails_of_accepted (Or.inl ⟨_, read⟩)⟩

/-- A class with the optional field `en` only. -/
def Declaration.en : Declaration :=
  { person with members :=
      [⟨.storedProperty, ⟨false, "en", by decide⟩, some (.optional (.named "u8")), none, []⟩] }

/-- With the prefix `g` the setter of `en` is named by the keyword `gen`, and is not raw. -/
theorem plain_keyword_setter : ∃ resolved setter artifact methods,
    ({ Settings.standard with setterPrefix := "g" } : Settings).resolve = .ok resolved ∧
      (⟨false, "en", by decide⟩ : Ident).setterIdent? "g" = some setter ∧
      Word.isKeyword ("g" ++ "en") = true ∧ setter.raw = false ∧
      ¬(setter.raw = true ↔ Word.isKeyword ("g" ++ "en") = true) ∧
      Declaration.en.kind = .classType ∧
      Generator.generate resolved .en .both = .ok artifact ∧
      artifact.initializer.methods? = some methods ∧
      artifact.initializer.tokens? = some (word "impl" ++ artifact.target.tokens ++
        [braces (methods.flatMap Method.tokens)]) ∧
      methods.map (Ident.text ∘ Method.ident) = ["new", "gen"] := by
  refine ⟨{ ResolvedSettings.standard with setterPrefix := "g" }, ⟨false, "gen", by decide⟩, _, _,
    rfl, rfl, by decide, rfl, by decide, rfl, rfl, rfl, Initializer.tokens?_of_methods? rfl, rfl⟩

end KeyedCoding
