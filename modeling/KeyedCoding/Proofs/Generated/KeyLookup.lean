import KeyedCoding.Coding.Object
import KeyedCoding.Proofs.Generated.Fields
import Mathlib.Data.List.Find

/-!
# Looking keys up

The keys of a class can be looked up from both sides. From a text the generated enumeration gets
the first case whose key it is, so that it gets back every case from its key if and only if the keys
are distinct. From an identifier the keys and the fields give a key only if it is spelt like that of
a field, while the list of the pairs knows names alone.

## Main definitions

* `KeyMapping.all`, `KeyMapping.caseOf?`: the cases of the generated enumeration, and the one that a
  text is resolved to.
* `Field.IsFirstWithKey`: the first of some fields with a key.

## Main results

* `KeyMapping.caseOf?_eq`: what the enumeration gets is the case that the keys find.
* `KeyMapping.resolves_iff_nodup_keys`: resolving inverts the keys if and only if they are distinct.
* `KeyMapping.lookups_agree_iff`: from which identifiers all lookups get the same.
-/

namespace KeyedCoding

/-- The first of some fields whose key is a text. -/
def Field.IsFirstWithKey (text : String) (fields : List Field) (field : Field) : Prop :=
  ∃ before after, fields = before ++ field :: after ∧ field.key = text ∧
    ∀ other ∈ before, other.key ≠ text

namespace KeyMapping

/-! ### From a text to a case -/

/-- The cases of the generated enumeration, as its code lists them. -/
def all (mapping : KeyMapping) : List Ident := mapping.cases.map KeyCase.ident

/-- The case that the generated enumeration resolves a text to: the first of all its cases for which
its code gives this text as the key. -/
def caseOf? (mapping : KeyMapping) (text : String) : Option Ident :=
  mapping.all.find? fun case => mapping.keyFor? case == some text

section Cases

variable {mapping : KeyMapping}

/-- With distinct cases the code gives for each its own key. -/
theorem keyFor?_of_mem (distinct : mapping.all.Nodup) {case : KeyCase} (h : case ∈ mapping.cases) :
    mapping.keyFor? case.ident = some case.key := by
  rw [keyFor?, find?_eq_some_of_nodup distinct h, Option.map_some]

/-- What the enumeration gets from a text is the first case with this key. -/
theorem caseOf?_eq (distinct : mapping.all.Nodup) (text : String) :
    mapping.caseOf? text = (mapping.resolve? text).map KeyCase.ident := by
  rw [caseOf?, all, List.find?_map, resolve?]
  congr 1
  refine List.find?_congr fun case h => ?_
  rw [Function.comp_apply, keyFor?_of_mem distinct h]
  rfl

/-- The first case with a key stands at the first place that the key has among all keys. -/
theorem resolve?_eq_getElem? (text : String) :
    mapping.resolve? text = (resolveKey? mapping.keys text).bind (mapping.cases[·]?) := by
  rw [resolve?, resolveKey?, keys, List.findIdx?_map, List.find?_eq_bind_findIdx?_getElem?]
  rfl

end Cases

section Fields

variable {context : Context} {fields : List Field}

theorem all_ofFields : (ofFields context fields).all = fields.map Field.ident := by
  rw [all, ofFields, List.map_map]
  rfl

theorem resolve?_ofFields (text : String) : (ofFields context fields).resolve? text =
    (fields.find? (·.key == text)).map fun field => ⟨field.ident, field.key⟩ := by
  rw [resolve?, ofFields, List.find?_map]
  rfl

theorem find?_key_eq_some_iff {text : String} {field : Field} :
    fields.find? (·.key == text) = some field ↔ Field.IsFirstWithKey text fields field := by
  simp only [List.find?_eq_some_iff_append, Field.IsFirstWithKey, beq_iff_eq, Bool.not_eq_true',
    beq_eq_false_iff_ne]
  constructor
  · rintro ⟨key, before, after, split, others⟩
    exact ⟨before, after, split, key, others⟩
  · rintro ⟨before, after, split, key, others⟩
    exact ⟨key, before, after, split, others⟩

variable (distinct : (fields.map Field.ident).Nodup)

include distinct

theorem caseOf?_ofFields (text : String) : (ofFields context fields).caseOf? text =
    (fields.find? (·.key == text)).map Field.ident := by
  rw [caseOf?_eq (all_ofFields ▸ distinct), resolve?_ofFields, Option.map_map]
  rfl

/-- Every field is what its key is resolved to if and only if all keys are distinct. -/
theorem caseOf?_key_iff_nodup (context : Context) :
    (∀ field ∈ fields, (ofFields context fields).caseOf? field.key = some field.ident) ↔
      (fields.map Field.key).Nodup := by
  constructor
  · intro inverts
    rw [List.nodup_map_iff_inj_on (distinct.of_map _)]
    intro field hf other ho same
    have idents : some field.ident = some other.ident := by
      rw [← inverts field hf, ← inverts other ho, same]
    exact List.inj_on_of_nodup_map distinct hf ho (Option.some.inj idents)
  · intro keys field hf
    rw [caseOf?_ofFields distinct, find?_eq_some_of_nodup keys hf, Option.map_some]

end Fields

/-- **Resolving a text inverts the keys if and only if they are distinct.** Take the keys of any
fields with distinct identifiers, whether a key is given or is the name of its field. A text is
resolved to the case of the first field with this key, which stands at the first place that the text
has among the keys, and to none if no field has it. So the generated code gets every case back from
its key if and only if no two fields have the same key. -/
theorem resolves_iff_nodup_keys (context : Context) {fields : List Field}
    (distinct : (fields.map Field.ident).Nodup) :
    (∀ text case, (ofFields context fields).caseOf? text = some case ↔
      ∃ field, Field.IsFirstWithKey text fields field ∧ field.ident = case) ∧
    (∀ text, (ofFields context fields).caseOf? text = none ↔
      ∀ field ∈ fields, field.key ≠ text) ∧
    (∀ text, (ofFields context fields).caseOf? text =
      (resolveKey? (fields.map Field.key) text).bind ((ofFields context fields).all[·]?)) ∧
    ((∀ case ∈ (ofFields context fields).all, ∃ key,
        (ofFields context fields).keyFor? case = some key ∧
          (ofFields context fields).caseOf? key = some case) ↔
      (fields.map Field.key).Nodup) := by
  refine ⟨fun text case => ?_, fun text => ?_, fun text => ?_, ?_⟩
  · simp only [caseOf?_ofFields distinct, Option.map_eq_some_iff, find?_key_eq_some_iff]
  · simp only [caseOf?_ofFields distinct, Option.map_eq_none_iff, List.find?_eq_none, beq_iff_eq,
      ne_eq]
  · have keys : (ofFields context fields).keys = fields.map Field.key := by
      rw [KeyMapping.keys, ofFields, List.map_map]
      rfl
    have place (place : Nat) : (ofFields context fields).all[place]? =
        (ofFields context fields).cases[place]?.map KeyCase.ident := List.getElem?_map
    rw [caseOf?_eq (all_ofFields ▸ distinct), resolve?_eq_getElem?, keys, Option.map_bind]
    exact Option.bind_congr fun index _ => (place index).symm
  · rw [all_ofFields]
    refine Iff.trans ?_ (caseOf?_key_iff_nodup distinct context)
    constructor
    · intro inverts field hf
      obtain ⟨key, hk, hc⟩ := inverts field.ident (List.mem_map_of_mem hf)
      rw [keyFor?_ofFields context distinct hf] at hk
      rwa [Option.some.inj hk]
    · intro inverts case hc
      obtain ⟨field, hf, rfl⟩ := List.mem_map.mp hc
      exact ⟨field.key, keyFor?_ofFields context distinct hf, inverts field hf⟩

end KeyMapping

/-- A class with two fields, of which the first one is given the name of the second as its key. -/
def Declaration.sharingKey : Declaration where
  ident := ⟨false, "Sharing", by decide⟩
  kind := .classType
  visibility := ⟨[]⟩
  members :=
    [⟨.storedProperty, ⟨false, "label", by decide⟩, some (.named "u8"), none,
        [⟨"codable_key", [⟨false, "\"match\"", .text "match"⟩]⟩]⟩,
      ⟨.storedProperty, ⟨true, "match", by decide⟩, some (.named "u8"), none, []⟩]

/-- The text is resolved to the first of the two fields, and the second one is lost. -/
theorem KeyMapping.resolves_iff_nodup_keys_sharingKey :
    ∃ context fields, context = Generator.context .standard .sharingKey ∧
      fields = Generator.fields .standard .sharingKey ∧ (fields.map Field.ident).Nodup ∧
      (ofFields context fields).caseOf? "match" = some ⟨false, "label", by decide⟩ ∧
      ¬ ∀ case ∈ (ofFields context fields).all, ∃ key,
        (ofFields context fields).keyFor? case = some key ∧
          (ofFields context fields).caseOf? key = some case := by
  have distinct : ((Generator.fields .standard .sharingKey).map Field.ident).Nodup := by decide
  obtain ⟨first, -, -, inverts⟩ :=
    resolves_iff_nodup_keys (Generator.context .standard .sharingKey) distinct
  refine ⟨_, _, rfl, rfl, distinct, (first _ _).mpr ⟨_, ⟨[], _, rfl, rfl, by simp⟩, rfl⟩, ?_⟩
  rw [inverts]
  decide

/-! ### From an identifier to a key -/

namespace KeyMapping

section Names

variable {context : Context} {fields : List Field}

/-- The keys and the fields are searched for the same identifier. -/
theorem keyFor?_eq_find? (ident : Ident) :
    (ofFields context fields).keyFor? ident = (Field.find? fields ident).map Field.key := by
  rw [keyFor?, ofFields, List.find?_map, Option.map_map, Field.find?]
  rfl

theorem mem_pairs_iff {name key : String} : (name, key) ∈ (ofFields context fields).pairs ↔
    ∃ field ∈ fields, field.name = name ∧ field.key = key := by
  rw [pairs, ofFields, List.map_map]
  simp [Field.name]

variable (distinct : (fields.map Field.name).Nodup)

include distinct

/-- With distinct names a key is found from an identifier if it is listed with its name, and some
field is spelt like it. -/
theorem keyFor?_eq_some_iff {ident : Ident} {key : String} :
    (ofFields context fields).keyFor? ident = some key ↔
      ident ∈ fields.map Field.ident ∧ (ident.name, key) ∈ (ofFields context fields).pairs := by
  rw [keyFor?_eq_find?, mem_pairs_iff, Option.map_eq_some_iff]
  constructor
  · rintro ⟨field, found, rfl⟩
    have hf : field ∈ fields := List.mem_of_find?_eq_some found
    have ident : field.ident = ident := by simpa using List.find?_some found
    exact ⟨ident ▸ List.mem_map_of_mem hf, field, hf, congrArg Ident.name ident, rfl⟩
  · rintro ⟨hi, listed, hl, name, rfl⟩
    obtain ⟨field, hf, rfl⟩ := List.mem_map.mp hi
    have idents : (fields.map Field.ident).Nodup := by
      refine List.Nodup.of_map Ident.name ?_
      rwa [List.map_map]
    exact ⟨field, Field.find?_of_mem idents hf,
      congrArg Field.key (List.inj_on_of_nodup_map distinct hf hl name.symm)⟩

end Names

/-- **From which identifiers all lookups get the same.** Take the keys of any fields with distinct
names. The keys and the fields always get the same from an identifier: the key that is listed with
its name, provided that some field is spelt like it. So they get what the list of the pairs has for
the name if and only if a field with this name, if there is any, is spelt like the identifier. -/
theorem lookups_agree_iff (context : Context) {fields : List Field}
    (distinct : (fields.map Field.name).Nodup) (ident : Ident) :
    (ofFields context fields).keyFor? ident = (Field.find? fields ident).map Field.key ∧
    (∀ key, (ofFields context fields).keyFor? ident = some key ↔
      ident ∈ fields.map Field.ident ∧ (ident.name, key) ∈ (ofFields context fields).pairs) ∧
    ((∀ key, (ofFields context fields).keyFor? ident = some key ↔
        (ident.name, key) ∈ (ofFields context fields).pairs) ↔
      (ident.name ∈ fields.map Field.name → ident ∈ fields.map Field.ident)) := by
  refine ⟨keyFor?_eq_find? ident, fun key => keyFor?_eq_some_iff distinct, ?_⟩
  constructor
  · intro agree hn
    obtain ⟨field, hf, name⟩ := List.mem_map.mp hn
    have listed : (ident.name, field.key) ∈ (ofFields context fields).pairs :=
      mem_pairs_iff.mpr ⟨field, hf, name, rfl⟩
    exact ((keyFor?_eq_some_iff distinct).mp ((agree _).mpr listed)).1
  · intro spelt key
    rw [keyFor?_eq_some_iff distinct]
    refine ⟨And.right, fun listed => ⟨spelt ?_, listed⟩⟩
    obtain ⟨field, hf, name, -⟩ := mem_pairs_iff.mp listed
    exact name ▸ List.mem_map_of_mem hf

end KeyMapping

/-- In the class of people the raw field is found from its raw identifier. -/
theorem KeyMapping.lookups_agree_iff_person :
    ∃ context fields ident, context = Generator.context .standard .person ∧
      fields = Generator.fields .standard .person ∧ ident = ⟨true, "type", by decide⟩ ∧
      (fields.map Field.name).Nodup ∧
      (ofFields context fields).keyFor? ident = some "type" ∧
      ∀ key, (ofFields context fields).keyFor? ident = some key ↔
        (ident.name, key) ∈ (ofFields context fields).pairs := by
  have distinct : ((Generator.fields .standard .person).map Field.name).Nodup := by decide
  obtain ⟨-, found, agree⟩ := lookups_agree_iff (Generator.context .standard .person) distinct
    ⟨true, "type", by decide⟩
  exact ⟨_, _, _, rfl, rfl, rfl, distinct, (found _).mpr (by decide), agree.mpr fun _ => by decide⟩

/-- In the class of people a plain field is listed under its name, but is not found from the raw
identifier with the same name. -/
theorem KeyMapping.raw_lookup_fails :
    ∃ artifact, Generator.generate .standard .person .both = .ok artifact ∧
      ((Generator.fields .standard .person).map Field.name).Nodup ∧
      ("note", "note") ∈ artifact.keyMapping.pairs ∧
      artifact.keyMapping.keyFor? ⟨false, "note", by decide⟩ = some "note" ∧
      artifact.keyMapping.keyFor? ⟨true, "note", by decide⟩ = none :=
  ⟨_, Generator.generate_of_isClass rfl .standard .both, by decide, by decide, by decide,
    by decide⟩

end KeyedCoding
