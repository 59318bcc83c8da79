import KeyedCoding.Generator.Basic
import Mathlib.Data.List.Forall2
import Mathlib.Data.List.Nodup

/-!
# The fields of a class and the code for them

What all results about generated code start from: which members of a declaration are fields and
what is known of such a field, what a generator gives for a declaration, and how a field is found
by its identifier.

## Main definitions

* `Member.isField`: whether a member is a field.
* `Generator.fields`: the fields that a generator sees in a declaration.

## Main results

* `Generator.run_eq`: what a generator gives.
* `Field.presence_eq_of_mem_extract`: the presence of a field follows from its type.
* `KeyMapping.keyFor?_ofFields`: the key of a field is found by its identifier.
-/

namespace KeyedCoding

/-- Lists have the same images if these are the same one by one. -/
theorem map_eq_map_iff_forall₂ {β γ δ : Type} {f : β → δ} {g : γ → δ} {items : List β}
    {others : List γ} : items.map f = others.map g ↔
      List.Forall₂ (fun item other => f item = g other) items others := by
  rw [← List.forall₂_eq_eq_eq, List.forall₂_map_left_iff, List.forall₂_map_right_iff]

/-! ### Members that are fields -/

/-- Whether a member is a field: a stored property with a type. -/
def Member.isField (member : Member) : Bool :=
  member.kind == .storedProperty && member.ty.isSome

namespace Ty

/-- Whether a field of a type may be absent. -/
def presence (ty : Ty) : Presence := if ty.optionInner.isSome then .ifPresent else .required

/-- The type of the value of a field when there is one. -/
def valueType (ty : Ty) : Ty := ty.optionInner.getD ty

theorem presence_eq_ifPresent_iff {ty : Ty} :
    ty.presence = .ifPresent ↔ ty.optionInner = some ty.valueType := by
  cases h : ty.optionInner <;> simp [presence, valueType, h]

theorem presence_eq_required_iff {ty : Ty} :
    ty.presence = .required ↔ ty.valueType = ty ∧ ty.optionInner = none := by
  cases h : ty.optionInner <;> simp [presence, valueType, h]

end Ty

namespace Field

variable {keyMarker : String} {members : List Member} {member : Member} {field : Field}

/-- The field that a member is has its identifier, its type and its initial value. -/
theorem ofMember?_eq_some_iff : ofMember? keyMarker member = some field ↔
    ∃ ty, member.kind = .storedProperty ∧ member.ty = some ty ∧
      field = ⟨member.ident, ty, ty.optionInner.isSome, member.initial,
        keyOfMarkers keyMarker member.markers⟩ := by
  obtain ⟨kind, ident, ty, initial, markers⟩ := member
  cases kind <;> cases ty <;> simp [ofMember?, ofType, eq_comm]

theorem isSome_ofMember? : (ofMember? keyMarker member).isSome = member.isField := by
  obtain ⟨kind, ident, ty, initial, markers⟩ := member
  cases kind <;> cases ty <;> rfl

/-- The fields of a class are its members that are fields, in their order. -/
theorem forall₂_extract (keyMarker : String) (members : List Member) :
    List.Forall₂ (fun member field => ofMember? keyMarker member = some field)
      (members.filter Member.isField) (extract keyMarker members) := by
  induction members with
  | nil => exact .nil
  | cons member members ih =>
    rw [extract, List.filterMap_cons, List.filter_cons, ← isSome_ofMember?]
    cases hf : ofMember? keyMarker member with
    | none => exact ih
    | some field => exact .cons hf ih

/-- Whether a field is optional follows from its type. -/
theorem isOptional_of_mem_extract (h : field ∈ extract keyMarker members) :
    field.isOptional = field.ty.optionInner.isSome := by
  obtain ⟨member, -, hm⟩ := List.mem_filterMap.mp h
  obtain ⟨ty, -, -, rfl⟩ := ofMember?_eq_some_iff.mp hm
  rfl

theorem presence_eq_of_mem_extract (h : field ∈ extract keyMarker members) :
    field.presence = field.ty.presence := by
  simp [presence, Ty.presence, isOptional_of_mem_extract h]

theorem valueType_eq (field : Field) : field.valueType = field.ty.valueType := rfl

end Field

/-- What is the same for items that are related is the same for lists of them. -/
theorem map_eq_of_forall₂ {β γ : Type} {r : β → β → Prop} {f : β → γ} {items others : List β}
    (related : List.Forall₂ r items others)
    (same : ∀ item other, r item other → f other = f item) : others.map f = items.map f := by
  rw [map_eq_map_iff_forall₂]
  exact related.flip.imp fun other item h => same item other h

/-! ### Finding a field by its identifier -/

/-- Among items with distinct images every item is found by its own. -/
theorem find?_eq_some_of_nodup {β γ : Type} [DecidableEq γ] {f : β → γ} {items : List β}
    (distinct : (items.map f).Nodup) {item : β} (h : item ∈ items) :
    items.find? (fun other => f other == f item) = some item := by
  induction items with
  | nil => simp at h
  | cons first rest ih =>
    rw [List.map_cons, List.nodup_cons] at distinct
    rcases List.mem_cons.mp h with rfl | hr
    · simp
    · have hne : (f first == f item) = false := by
        rw [beq_eq_false_iff_ne]
        exact fun he => distinct.1 (he ▸ List.mem_map_of_mem hr)
      rw [List.find?_cons, hne]
      exact ih distinct.2 hr

/-- With distinct identifiers every field is found by its own. -/
theorem Field.find?_of_mem {fields : List Field} (distinct : (fields.map Field.ident).Nodup)
    {field : Field} (h : field ∈ fields) : Field.find? fields field.ident = some field :=
  find?_eq_some_of_nodup distinct h

/-- With distinct identifiers the key of every field is found by its identifier. -/
theorem KeyMapping.keyFor?_ofFields (context : Context) {fields : List Field}
    (distinct : (fields.map Field.ident).Nodup) {field : Field} (h : field ∈ fields) :
    (KeyMapping.ofFields context fields).keyFor? field.ident = some field.key := by
  have hc : (⟨field.ident, field.key⟩ : KeyCase) ∈ (KeyMapping.ofFields context fields).cases :=
    List.mem_map_of_mem h
  have hd : ((KeyMapping.ofFields context fields).cases.map KeyCase.ident).Nodup := by
    simpa [KeyMapping.ofFields, Function.comp_def] using distinct
  rw [KeyMapping.keyFor?, find?_eq_some_of_nodup hd hc, Option.map_some]

/-- The key of a case below the name of an enumeration, which must be that of the keys. -/
def KeyMapping.keyBelow? (mapping : KeyMapping) (enumeration case : Ident) : Option String :=
  if enumeration = mapping.ident then mapping.keyFor? case else none

theorem KeyMapping.keyBelow?_ofFields (context : Context) {fields : List Field}
    (distinct : (fields.map Field.ident).Nodup) {field : Field} (h : field ∈ fields) :
    (KeyMapping.ofFields context fields).keyBelow? context.keys field.ident = some field.key :=
  (if_pos rfl).trans (keyFor?_ofFields context distinct h)

/-! ### What a generator gives -/

namespace Generator

/-- The fields that a generator sees in a declaration. -/
def fields (settings : ResolvedSettings) (declaration : Declaration) : List Field :=
  Field.extract settings.keyMarker declaration.members

/-- A run gives the code for the fields of a class, and an error for any other type, whatever
observes it. -/
theorem run_eq {σ : Type} (generator : Generator σ) (declaration : Declaration) (mode : Mode)
    (state : σ) :
    ((generator.run declaration mode).run state).1 =
      if declaration.kind = .classType then
        .ok (Artifact.ofFields (context generator.settings declaration) mode
          (fields generator.settings declaration))
      else .error .onlyForClasses := by
  obtain ⟨settings, observer⟩ := generator
  by_cases h : declaration.kind = .classType
  · rw [if_pos h]
    simp only [run, DeclarationKind.isClassLike, h]
    cases observer <;> rfl
  · have hc : declaration.kind.isClassLike = false := by
      simpa [DeclarationKind.isClassLike] using h
    rw [if_neg h]
    simp only [run, hc]
    cases observer <;> rfl

theorem generate_eq (settings : ResolvedSettings) (declaration : Declaration) (mode : Mode) :
    generate settings declaration mode =
      if declaration.kind = .classType then
        .ok (Artifact.ofFields (context settings declaration) mode (fields settings declaration))
      else .error .onlyForClasses :=
  run_eq ⟨settings, none⟩ declaration mode ()

theorem generate_of_isClass {declaration : Declaration} (h : declaration.kind = .classType)
    (settings : ResolvedSettings) (mode : Mode) :
    generate settings declaration mode = .ok
      (Artifact.ofFields (context settings declaration) mode (fields settings declaration)) := by
  rw [generate_eq, if_pos h]

end Generator

/-! ### A class with a field of each sort -/

/-- A type that is named by a word. -/
def Ty.named (name : String) : Ty := .path false [.plain name]

/-- The optional type over a type. -/
def Ty.optional (inner : Ty) : Ty := .path false [.applied "Option" false [.type inner] false]

/-- A class of people: a field with a key of its own, one that may be absent, one that may be absent
or hold nothing, one with an initial value, and a member that is no field. -/
def Declaration.person : Declaration where
  ident := ⟨false, "Person", by decide⟩
  kind := .classType
  visibility := ⟨[]⟩
  members :=
    [⟨.storedProperty, ⟨false, "id", by decide⟩, some (.named "u32"), none,
        [⟨"codable_key", [⟨false, "\"ID\"", .text "ID"⟩]⟩]⟩,
      ⟨.storedProperty, ⟨false, "note", by decide⟩, some (.optional (.named "u8")), none, []⟩,
      ⟨.storedProperty, ⟨false, "rank", by decide⟩,
        some (.optional (.optional (.named "u8"))), none, []⟩,
      ⟨.storedProperty, ⟨true, "type", by decide⟩, some (.named "u8"),
        some (.literal ⟨false, "7", .integer 7⟩), []⟩,
      ⟨.computedProperty, ⟨false, "age", by decide⟩, some (.named "u8"), none, []⟩]

end KeyedCoding
