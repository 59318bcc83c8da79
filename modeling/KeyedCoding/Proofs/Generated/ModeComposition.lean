import KeyedCoding.Proofs.Generated.Methods

/-!
# The code of the three modes

The code of each mode is put together from the same parts. All modes have the keys and the
initializer in front, and then the implementation of a trait for each direction that they ask for.
Such an implementation holds a function that is a fragment of the code. It is there if the mode asks
for its direction in two ways, by the conformance and by the function itself, and these agree.

## Main definitions

* `Mode.select`: the directions that a mode asks for.
* `implementation`: the implementation of a trait.

## Main results

* `Artifact.fragments_ofFields`: the fragments of the code in a mode.
* `Artifact.tokens?_ofFields`: the code in a mode.
* `generate_modes_compose`: the code of all modes is put together from the same parts.
-/

namespace KeyedCoding

open TokenStream

/-- Of something for encoding and something for decoding, what a mode asks for. -/
def Mode.select {β : Type} (mode : Mode) (encode decode : β) : List β :=
  match mode with
  | .encodeOnly => [encode]
  | .decodeOnly => [decode]
  | .both => [encode, decode]

/-- The implementation of a trait of the runtime library for a class: the type of its keys, and a
function. -/
def implementation (runtime : Path) (trait : String) (target keys : Ident)
    (function : TokenStream) : TokenStream :=
  word "impl" ++ below runtime.tokens trait ++ word "for" ++ target.tokens ++
    [braces (word "type" ++ word "Keys" ++ symbol "=" ++ keys.tokens ++ symbol ";" ++ function)]

namespace Context

/-- The implementation of a trait for the class of a context. -/
def implTokens (context : Context) (trait : String) (function : TokenStream) : TokenStream :=
  implementation context.runtime trait context.target context.keys function

end Context

namespace Artifact

variable (context : Context) (mode : Mode) (fields : List Field)

/-- The fragments of the code in a mode: those that every mode has, and then those that the mode
asks for. None of them depends on the mode. -/
theorem fragments_ofFields : (ofFields context mode fields).fragments =
    [.keyMapping (.ofFields context fields), .initializer (.ofFields context fields)] ++
      mode.select (.encode (.ofFields context fields)) (.decode (.ofFields context fields)) := by
  cases mode <;> rfl

/-- The conformance of a mode is there for just the functions that the mode asks for. -/
theorem conformanceTokens_ofFields :
    (ofFields context mode fields).conformanceTokens (.ofMode mode) =
      (mode.select (context.implTokens "Encodable" (EncodeBody.ofFields context fields).tokens)
        (context.implTokens "Decodable" (DecodeBody.ofFields context fields).tokens)).flatten := by
  cases mode with
  | encodeOnly => rfl
  | decodeOnly => exact (List.append_nil _).symm
  | both =>
    exact congrArg (context.implTokens "Encodable" (EncodeBody.ofFields context fields).tokens ++ ·)
      (List.append_nil _).symm

/-- The code in a mode. -/
theorem tokens?_ofFields : (ofFields context mode fields).tokens? =
    (Initializer.ofFields context fields).tokens?.map fun initializer =>
      (KeyMapping.ofFields context fields).tokens ++ initializer ++
        (mode.select (context.implTokens "Encodable" (EncodeBody.ofFields context fields).tokens)
          (context.implTokens "Decodable"
            (DecodeBody.ofFields context fields).tokens)).flatten := by
  rw [tokens?, ← conformanceTokens_ofFields]
  rw [show (ofFields context mode fields).conformances = [.ofMode mode] from rfl,
    List.flatMap_singleton]
  rfl

end Artifact

/-- **The code of all modes is put together from the same parts.** With accepted settings there are
tokens for the keys, for the initializer and for the functions that encode and decode the objects of
a class. In every mode the code is that of the keys and the initializer, followed by the
implementations of the traits that the mode asks for: to encode, to decode, or to encode and decode.
An implementation is the type of the keys and the function. The fragments of the code are listed in
the same order, each with the same tokens. -/
theorem generate_modes_compose {settings : Settings} {resolved : ResolvedSettings}
    (accepted : settings.resolve = .ok resolved) {declaration : Declaration}
    (isClass : declaration.kind = .classType) :
    ∃ (keys : Ident) (keyMapping initializer encode decode encodable decodable : TokenStream),
      encodable = implementation resolved.runtime "Encodable" declaration.ident keys encode ∧
      decodable = implementation resolved.runtime "Decodable" declaration.ident keys decode ∧
      ∀ mode, ∃ artifact, Generator.generate resolved declaration mode = .ok artifact ∧
        artifact.keyMapping.ident = keys ∧
        artifact.tokens? =
          some (keyMapping ++ initializer ++ (mode.select encodable decodable).flatten) ∧
        artifact.fragments.map (fun fragment => (fragment.name, fragment.tokens?)) =
          [("key_mapping", some keyMapping), ("initializer", some initializer)] ++
            mode.select ("encode", some encode) ("decode", some decode) := by
  obtain ⟨setters, hm, -⟩ :=
    Generator.exists_methods? (Settings.resolve_eq_ok_iff.mp accepted) declaration
  let context := Generator.context resolved declaration
  let fields := Generator.fields resolved declaration
  obtain ⟨initializer, hi⟩ : ∃ initializer,
      (Initializer.ofFields context fields).tokens? = some initializer :=
    ⟨_, Initializer.tokens?_of_methods? hm⟩
  refine ⟨context.keys, (KeyMapping.ofFields context fields).tokens, initializer,
    (EncodeBody.ofFields context fields).tokens, (DecodeBody.ofFields context fields).tokens,
    _, _, rfl, rfl, fun mode => ⟨Artifact.ofFields context mode fields,
      Generator.generate_of_isClass isClass resolved mode, rfl, ?_, ?_⟩⟩
  · rw [Artifact.tokens?_ofFields, hi, Option.map_some]
    rfl
  · rw [Artifact.fragments_ofFields, List.map_append]
    cases mode <;> simp [Mode.select, Fragment.name, Fragment.tokens?, hi]

/-- The code that both encodes and decodes people has the code that only encodes them in front. -/
theorem generate_modes_compose_person :
    Settings.standard.resolve = .ok .standard ∧ Declaration.person.kind = .classType ∧
      ∃ writer both writerTokens decode,
        Generator.generate .standard .person .encodeOnly = .ok writer ∧
        Generator.generate .standard .person .both = .ok both ∧
        writer.tokens? = some writerTokens ∧
        both.tokens? = some (writerTokens ++ implementation ResolvedSettings.standard.runtime
          "Decodable" Declaration.person.ident both.keyMapping.ident decode) ∧
        both.fragments.map Fragment.name = ["key_mapping", "initializer", "encode", "decode"] := by
  have isClass : Declaration.person.kind = .classType := rfl
  obtain ⟨keys, keyMapping, initializer, encode, decode, encodable, _, -, rfl, modes⟩ :=
    generate_modes_compose Settings.resolve_standard isClass
  obtain ⟨writer, hw, -, writes, -⟩ := modes .encodeOnly
  obtain ⟨both, hb, rfl, tokens, fragments⟩ := modes .both
  refine ⟨Settings.resolve_standard, isClass, writer, both, _, decode, hw, hb, writes, ?_, ?_⟩
  · rw [tokens]
    simp only [Mode.select, List.flatten_cons, List.flatten_nil, List.append_nil, List.append_assoc]
  · have names := congrArg (List.map Prod.fst) fragments
    rwa [List.map_map] at names

end KeyedCoding
