import KeyedCoding.Proofs.Generated.IrrelevantParts
import KeyedCoding.Proofs.Token.StringLiterals

/-!
# Keys as string literals in generated code

The function that gives the keys of a class has an arm for every case of the enumeration, and in it
a string literal that denotes the key of this case. So nothing of a key is lost on its way into the
code: neither when a marker gives it, as a string literal of any form, nor when it is written.

## Main definitions

* `KeyMapping.asStr`, `KeyMapping.HasArms`: the function that gives the keys, and its arms in code.
* `KeyMapping.IsKeyArm`: an arm with a string literal for a key.
* `Member.WritesKey`: a member whose markers give a key by a string literal.

## Main results

* `KeyMapping.forall₂_isKeyArm`: every arm has a string literal for its key.
* `Field.key_of_writesKey`: a field has the key that its string literal denotes.
* `KeyMapping.keys_eq_of_tokens_eq`: the code of keys determines them.
* `key_literals`: keys survive rendering.
-/

namespace KeyedCoding

open TokenStream

/-! ### The literals among tokens -/

namespace TokenTree

/-- The spelling of a token that is a literal. -/
def literal? : TokenTree → Option String
  | literal text => some text
  | _ => none

end TokenTree

/-! ### The arms of the function that gives the keys -/

namespace KeyMapping

/-- The function that gives the key of each case, with its arms. -/
def asStr (arms : List TokenStream) : TokenStream :=
  word "fn" ++ word "as_str" ++ [parens (word "self")] ++ symbol "->" ++ staticText ++
    [braces (word "match" ++ word "self" ++ [braces (withCommas arms)])]

/-- The code of some keys ends with an implementation, and this with the function that gives the
keys, with some arms. -/
def HasArms (mapping : KeyMapping) (arms : List TokenStream) : Prop :=
  ∃ front list, mapping.tokens = front ++ [braces (list ++ asStr arms)]

/-- An arm for a field, with a string literal for a key. -/
def IsKeyArm (ident : Ident) (key : String) (arm : TokenStream) : Prop :=
  ∃ literal : Literal,
    arm = below selfType ident.text ++ symbol "=>" ++ [.literal literal.spelling] ∧
    Literal.ofSpelling? literal.spelling = some literal ∧ literal.value = .text key

theorem hasArms (mapping : KeyMapping) : mapping.HasArms (mapping.cases.map armTokens) :=
  ⟨_, mapping.listTokens, rfl⟩

theorem isKeyArm_armTokens (case : KeyCase) : IsKeyArm case.ident case.key (armTokens case) :=
  ⟨⟨false, Literal.quoteText case.key, .text case.key⟩, rfl,
    Literal.ofSpelling?_quoteText case.key, rfl⟩

/-- Every arm has a string literal for the key of its case. -/
theorem forall₂_isKeyArm (mapping : KeyMapping) :
    List.Forall₂ (fun case arm => IsKeyArm case.ident case.key arm) mapping.cases
      (mapping.cases.map armTokens) := by
  rw [List.forall₂_map_right_iff, List.forall₂_same]
  exact fun case _ => isKeyArm_armTokens case

/-- The literals among the arms are those for the keys, in their order. -/
theorem filterMap_literal?_arms (cases : List KeyCase) :
    (withCommas (cases.map armTokens)).filterMap TokenTree.literal? =
      (cases.map KeyCase.key).map Literal.quoteText := by
  have arm (case : KeyCase) : (armTokens case ++ symbol ",").filterMap TokenTree.literal? =
      [Literal.quoteText case.key] := rfl
  rw [withCommas, List.flatMap_map, List.filterMap_flatMap, List.map_map, List.map_eq_flatMap]
  exact List.flatMap_congr fun case _ => arm case

/-- The arms are the innermost and last group of the code of keys. -/
theorem withCommas_eq_of_asStr {front front' list list' : TokenStream}
    {arms arms' : List TokenStream}
    (h : front ++ [braces (list ++ asStr arms)] = front' ++ [braces (list' ++ asStr arms')]) :
    withCommas arms = withCommas arms' := by
  have last {before before' content content' : TokenStream}
      (h : before ++ [braces content] = before' ++ [braces content']) : content = content' :=
    (TokenTree.group.inj (List.append_singleton_inj.mp h).2).2
  simp only [asStr, ← List.append_assoc] at h
  exact last (last (last h))

/-- The code of keys determines them. -/
theorem keys_eq_of_tokens_eq {mapping other : KeyMapping} (h : mapping.tokens = other.tokens) :
    mapping.keys = other.keys := by
  obtain ⟨front, list, ht⟩ := mapping.hasArms
  obtain ⟨front', list', ht'⟩ := other.hasArms
  rw [ht, ht'] at h
  have literals := congrArg (List.filterMap TokenTree.literal?) (withCommas_eq_of_asStr h)
  rw [filterMap_literal?_arms, filterMap_literal?_arms] at literals
  exact List.map_injective_iff.mpr Literal.quoteText_injective literals

end KeyMapping

/-! ### Keys that markers give -/

/-- The first usable marker of a member has as its argument a string literal for a key, in some
spelling. -/
def Member.WritesKey (keyMarker spelling key : String) (member : Member) : Prop :=
  ∃ before literal after, member.markers = before ++ ⟨keyMarker, [literal]⟩ :: after ∧
    (∀ marker ∈ before, ¬ marker.IsUsable keyMarker) ∧
    Literal.ofSpelling? spelling = some literal ∧ literal.value = .text key

namespace Field

variable {keyMarker spelling key : String} {member : Member} {field : Field}

/-- A field has the key that the string literal in its marker denotes. -/
theorem key_of_writesKey (isField : ofMember? keyMarker member = some field)
    (writes : member.WritesKey keyMarker spelling key) : field.key = key := by
  obtain ⟨ty, -, -, rfl⟩ := ofMember?_eq_some_iff.mp isField
  obtain ⟨before, literal, after, markers, unusable, -, denotes⟩ := writes
  simp only [Field.key, markers]
  rw [keyOfMarkers_append_of_unusable unusable]
  simp [keyOfMarkers, Marker.singleArgText, Literal.text, denotes]

/-- The arm of a field has a string literal for the key that the one in its marker denotes. -/
theorem isKeyArm_of_writesKey (isField : ofMember? keyMarker member = some field)
    (writes : member.WritesKey keyMarker spelling key) :
    KeyMapping.IsKeyArm member.ident key (KeyMapping.armTokens ⟨field.ident, field.key⟩) := by
  rw [key_of_writesKey isField writes]
  obtain ⟨ty, -, -, rfl⟩ := ofMember?_eq_some_iff.mp isField
  exact KeyMapping.isKeyArm_armTokens ⟨member.ident, key⟩

end Field

/-- **Keys survive rendering.** Every arm of the function that gives the keys has a string literal
that denotes the key of its case, whatever the key. In particular the literal that is written for
any text is read as this text. So a key that a marker of a class gives by a string literal, in
whatever spelling, is denoted by the literal in the arm of the field. And keys with the same code
are the same. -/
theorem key_literals :
    (∀ mapping : KeyMapping, ∃ arms, mapping.HasArms arms ∧
      List.Forall₂ (fun case arm => KeyMapping.IsKeyArm case.ident case.key arm)
        mapping.cases arms) ∧
    (∀ text, (Literal.ofSpelling? (Literal.quoteText text)).map Literal.text = some text) ∧
    (∀ (settings : ResolvedSettings) (declaration : Declaration) (mode : Mode),
      declaration.kind = .classType →
        ∃ artifact arms, Generator.generate settings declaration mode = .ok artifact ∧
          artifact.keyMapping.HasArms arms ∧
          List.Forall₂
            (fun member arm => ∀ spelling key,
              member.WritesKey settings.keyMarker spelling key →
                KeyMapping.IsKeyArm member.ident key arm)
            (declaration.members.filter Member.isField) arms) ∧
    ∀ mapping other : KeyMapping, mapping.tokens = other.tokens → mapping.keys = other.keys := by
  refine ⟨fun mapping => ⟨_, mapping.hasArms, mapping.forall₂_isKeyArm⟩, fun text => ?_,
    fun settings declaration mode isClass => ?_, fun _ _ => KeyMapping.keys_eq_of_tokens_eq⟩
  · rw [Literal.ofSpelling?_quoteText]
    rfl
  · refine ⟨_, _, Generator.generate_of_isClass isClass settings mode, KeyMapping.hasArms _, ?_⟩
    simp only [Artifact.ofFields, KeyMapping.ofFields, List.map_map]
    rw [List.forall₂_map_right_iff]
    exact (Field.forall₂_extract _ _).imp fun member field isField spelling key writes =>
      Field.isKeyArm_of_writesKey isField writes

/-- A class with keys that are written in three ways: with escapes, as a raw string, and on two
lines. -/
def Declaration.spellings : Declaration where
  ident := ⟨false, "Spellings", by decide⟩
  kind := .classType
  visibility := ⟨[]⟩
  members :=
    let field (ident : Ident) (spelling key : String) : Member :=
      ⟨.storedProperty, ident, some (.named "u8"), none,
        [⟨"codable_key", [⟨false, spelling, .text key⟩]⟩]⟩
    [field ⟨false, "escaped", by decide⟩ "\"a\\tb\\x21\"" "a\tb!",
      field ⟨false, "verbatim", by decide⟩ "r#\"say \"hi\"\"#" "say \"hi\"",
      field ⟨false, "continued", by decide⟩ "\"long \\\n    name\"" "long name"]

/-- The three keys are denoted by the literals in the code, which is the same for reading only. -/
theorem key_literals_spellings :
    Declaration.spellings.kind = .classType ∧
      ∃ artifact arms, Generator.generate .standard .spellings .both = .ok artifact ∧
        artifact.keyMapping.HasArms arms ∧
        List.Forall₂ (fun key arm => ∃ ident, KeyMapping.IsKeyArm ident key arm)
          ["a\tb!", "say \"hi\"", "long name"] arms ∧
        ∃ reader, Generator.generate .standard .spellings .decodeOnly = .ok reader ∧
          reader.keyMapping.tokens = artifact.keyMapping.tokens ∧
          reader.keyMapping.keys = artifact.keyMapping.keys := by
  have isClass : Declaration.spellings.kind = .classType := rfl
  obtain ⟨-, -, generated, determined⟩ := key_literals
  obtain ⟨artifact, arms, hg, hasArms, reads⟩ :=
    generated .standard .spellings .both isClass
  obtain ⟨reader, hr, same⟩ : ∃ reader,
      Generator.generate .standard .spellings .decodeOnly = .ok reader ∧
        reader.keyMapping.tokens = artifact.keyMapping.tokens := by
    rw [Generator.generate_of_isClass isClass] at hg
    cases hg
    exact ⟨_, Generator.generate_of_isClass isClass .standard .decodeOnly, rfl⟩
  refine ⟨isClass, artifact, arms, hg, hasArms, ?_, reader, hr, same, determined _ _ same⟩
  match reads with
  | .cons escaped (.cons verbatim (.cons continued .nil)) =>
    exact .cons ⟨_, escaped "\"a\\tb\\x21\"" _ ⟨[], _, [], rfl, by simp, by decide, rfl⟩⟩
      (.cons ⟨_, verbatim "r#\"say \"hi\"\"#" _ ⟨[], _, [], rfl, by simp, by decide, rfl⟩⟩
        (.cons ⟨_, continued "\"long \\\n    name\"" _ ⟨[], _, [], rfl, by simp, by decide, rfl⟩⟩
          .nil))

end KeyedCoding
