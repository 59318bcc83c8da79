import KeyedCoding.Proofs.Generated.MethodNames

/-!
# Identifiers spelt anew

An identifier may be written plainly or raw as far as its name allows it, and both are the same
name. Two declarations of a class that differ in the spelling of identifiers only, of the class
itself or of any members, have code with the same keys, the same enumeration of the keys and the
same methods, and their objects are written and read in the same way.

## Main definitions

* `Member.IsRespelled`, `Declaration.IsRespelled`: the same but for the spelling of identifiers.
* `Artifact.HasSameNames`: code with the same names, keys, types and presences.

## Main results

* `Field.extract_isRespelled`: members spelt anew give fields spelt anew.
* `Artifact.ofFields_hasSameNames`: fields spelt anew give code with the same names.
* `generate_respelled`: spelling identifiers anew leaves the names in the code of a class.
-/

namespace KeyedCoding

/-- The same member, but for the spelling of its identifier. -/
structure Member.IsRespelled (member other : Member) : Prop where
  name : other.ident.name = member.ident.name
  kind : other.kind = member.kind
  ty : other.ty = member.ty
  initial : other.initial = member.initial
  markers : other.markers = member.markers

/-- The same declaration, but for the spelling of its identifier and those of its members. -/
structure Declaration.IsRespelled (declaration other : Declaration) : Prop where
  name : other.ident.name = declaration.ident.name
  kind : other.kind = declaration.kind
  visibility : other.visibility = declaration.visibility
  members : List.Forall₂ Member.IsRespelled declaration.members other.members

/-- The same field, but for the spelling of its identifier. -/
structure Field.IsRespelled (field other : Field) : Prop where
  name : other.name = field.name
  ty : other.ty = field.ty
  isOptional : other.isOptional = field.isOptional
  initial : other.initial = field.initial
  overrideKey : other.overrideKey = field.overrideKey

/-- Code with the same enumeration of the keys and the same keys, with setters of the same
identifiers and parameters of the same types and defaults, and with functions that encode and decode
in the same way: the value of each statement may be absent or not as in the other code, and the one
that is read has the same type. -/
structure Artifact.HasSameNames (artifact other : Artifact) : Prop where
  enumeration : other.keyMapping.ident = artifact.keyMapping.ident
  keys : other.keyMapping.keys = artifact.keyMapping.keys
  pairs : other.keyMapping.pairs = artifact.keyMapping.pairs
  setters : ∃ setters,
    artifact.initializer.defaulted.mapM artifact.initializer.setterIdent? = some setters ∧
      other.initializer.defaulted.mapM other.initializer.setterIdent? = some setters
  params : other.initializer.params.map (fun param => (param.ty, param.default)) =
    artifact.initializer.params.map fun param => (param.ty, param.default)
  writes : other.encode.map (·.statements.map EncodeStatement.presence) =
    artifact.encode.map (·.statements.map EncodeStatement.presence)
  reads : other.decode.map (·.statements.map fun statement => (statement.ty, statement.presence)) =
    artifact.decode.map (·.statements.map fun statement => (statement.ty, statement.presence))

/-! ### Single identifiers -/

namespace Ident

variable {ident other : Ident}

theorem keysIdent_eq_of_name (same : other.name = ident.name) :
    other.keysIdent = ident.keysIdent := by
  simp only [keysIdent, same]

/-- The setter of a field is named by the name of the field, whatever its spelling. -/
theorem setterIdent?_eq_of_name {start : String} (ne : start ≠ "")
    (same : other.name = ident.name) : other.setterIdent? start = ident.setterIdent? start := by
  have notEmpty : ¬start.isEmpty = true := by simpa using ne
  rw [setterIdent?, setterIdent?, if_neg notEmpty, if_neg notEmpty, same]

end Ident

/-! ### From members to fields -/

namespace Field

variable {keyMarker : String}

/-- Of a member in two spellings both are fields or neither is, and so are the fields. -/
theorem ofMember?_isRespelled {member other : Member} (respelled : member.IsRespelled other) :
    Option.Rel IsRespelled (ofMember? keyMarker member) (ofMember? keyMarker other) := by
  obtain ⟨kind, ident, ty, initial, markers⟩ := member
  obtain ⟨kind', ident', ty', initial', markers'⟩ := other
  obtain ⟨name, rfl, rfl, rfl, rfl⟩ := respelled
  have same (ty : Ty) : IsRespelled
      ⟨ident, ty, ty.optionInner.isSome, initial', keyOfMarkers keyMarker markers'⟩
      ⟨ident', ty, ty.optionInner.isSome, initial', keyOfMarkers keyMarker markers'⟩ :=
    ⟨name, rfl, rfl, rfl, rfl⟩
  cases kind' with
  | storedProperty =>
    cases ty' with
    | some ty => exact .some (same ty)
    | none => exact .none
  | computedProperty => exact .none
  | initializer => exact .none
  | method => exact .none
  | nestedType => exact .none

/-- Members spelt anew give fields spelt anew. -/
theorem extract_isRespelled {members others : List Member}
    (respelled : List.Forall₂ Member.IsRespelled members others) :
    List.Forall₂ IsRespelled (extract keyMarker members) (extract keyMarker others) :=
  List.rel_filterMap (R := Member.IsRespelled)
    (fun _ _ respelled => ofMember?_isRespelled respelled) respelled

namespace IsRespelled

variable {field other : Field}

theorem key_eq (respelled : field.IsRespelled other) : other.key = field.key := by
  rw [Field.key, Field.key, respelled.overrideKey, respelled.name]

theorem presence_eq (respelled : field.IsRespelled other) : other.presence = field.presence := by
  rw [presence, presence, respelled.isOptional]

theorem valueType_eq (respelled : field.IsRespelled other) :
    other.valueType = field.valueType := by
  rw [valueType, valueType, respelled.ty]

theorem paramDefault_eq (respelled : field.IsRespelled other) :
    other.paramDefault = field.paramDefault := by
  rw [paramDefault, paramDefault, respelled.initial, respelled.isOptional]

end IsRespelled

end Field

/-! ### From fields to code -/

section Code

variable {context context' : Context} {fields others : List Field}

/-- The fields with a setter have setters of the same identifiers. -/
theorem Initializer.mapM_setterIdent?_eq (respelled : List.Forall₂ Field.IsRespelled fields others)
    (ne : context.setterPrefix ≠ "") (same : context'.setterPrefix = context.setterPrefix) :
    (ofFields context' others).defaulted.mapM (ofFields context' others).setterIdent? =
      (ofFields context fields).defaulted.mapM (ofFields context fields).setterIdent? := by
  have setters (context : Context) (fields : List Field) :
      (ofFields context fields).defaulted.mapM (ofFields context fields).setterIdent? =
        ((fields.filter (!·.paramDefault.isRequired)).map
          (·.ident.setterIdent? context.setterPrefix)).mapM id := by
    rw [defaulted_ofFields, List.mapM_map, List.mapM_map]
    rfl
  have kept : List.Forall₂ Field.IsRespelled (fields.filter (!·.paramDefault.isRequired))
      (others.filter (!·.paramDefault.isRequired)) := by
    refine List.rel_filter (fun field other h => ?_) respelled
    simp only [h.paramDefault_eq]
  rw [setters, setters, same, map_eq_of_forall₂ kept fun field other h =>
    Ident.setterIdent?_eq_of_name ne h.name]

/-- Fields spelt anew give code with the same names. -/
theorem Artifact.ofFields_hasSameNames (respelled : List.Forall₂ Field.IsRespelled fields others)
    (keys : context'.keys = context.keys) (ne : context.setterPrefix ≠ "")
    (same : context'.setterPrefix = context.setterPrefix)
    (methods : ∃ methods, (Initializer.ofFields context fields).methods? = some methods)
    (mode : Mode) :
    (ofFields context mode fields).HasSameNames (ofFields context' mode others) where
  enumeration := keys
  keys := by
    simp only [ofFields, KeyMapping.keys, KeyMapping.ofFields, List.map_map]
    exact map_eq_of_forall₂ respelled fun field other h => h.key_eq
  pairs := by
    simp only [ofFields, KeyMapping.pairs, KeyMapping.ofFields, List.map_map]
    exact map_eq_of_forall₂ respelled fun field other h => congrArg₂ Prod.mk h.name h.key_eq
  setters := by
    obtain ⟨methods, hm⟩ := methods
    have idents := (Initializer.ofFields context fields).map_ident_methods?
    rw [hm, Option.map_some, eq_comm, Option.map_eq_some_iff] at idents
    obtain ⟨setters, hs, -⟩ := idents
    exact ⟨setters, hs, (Initializer.mapM_setterIdent?_eq respelled ne same).trans hs⟩
  params := by
    simp only [ofFields, Initializer.ofFields, List.map_map]
    exact map_eq_of_forall₂ respelled fun field other h => congrArg₂ Prod.mk h.ty h.paramDefault_eq
  writes := by
    have presences := map_eq_of_forall₂ (f := Field.presence) respelled
      fun field other h => h.presence_eq
    cases mode <;> simp [ofFields, Mode.encodes, EncodeBody.ofFields, Function.comp_def, presences]
  reads := by
    have types := map_eq_of_forall₂ (f := fun field => (field.valueType, field.presence)) respelled
      fun field other h => congrArg₂ Prod.mk h.valueType_eq h.presence_eq
    cases mode <;> simp [ofFields, Mode.decodes, DecodeBody.ofFields, Function.comp_def, types]

end Code

/-- **Spelling identifiers anew leaves all names.** Take any class, accepted settings and a mode,
and write the identifier of the class and those of any of its members raw instead of plainly or the
other way round. Both declarations have code, with the same names: the keys and the enumeration of
the keys, the setters, the types and defaults of the parameters, and what is written and read. -/
theorem generate_respelled {settings : Settings} {resolved : ResolvedSettings}
    (accepted : settings.resolve = .ok resolved) {declaration other : Declaration}
    (isClass : declaration.kind = .classType) (respelled : declaration.IsRespelled other)
    (mode : Mode) :
    ∃ artifact artifact', Generator.generate resolved declaration mode = .ok artifact ∧
      Generator.generate resolved other mode = .ok artifact' ∧
      artifact.HasSameNames artifact' := by
  have resolves := Settings.resolve_eq_ok_iff.mp accepted
  have isClass' : other.kind = .classType := respelled.kind.trans isClass
  have keys : (Generator.context resolved other).keys =
      (Generator.context resolved declaration).keys := by
    simp only [Generator.context, Ident.keysIdent_eq_of_name respelled.name]
  have ne : (Generator.context resolved declaration).setterPrefix ≠ "" :=
    fun empty => resolves.setterPrefix_ne (resolves.setterPrefix_eq.symm.trans empty)
  obtain ⟨setters, methods, -⟩ := Generator.exists_methods? resolves declaration
  exact ⟨_, _, Generator.generate_of_isClass isClass resolved mode,
    Generator.generate_of_isClass isClass' resolved mode,
    Artifact.ofFields_hasSameNames (Field.extract_isRespelled respelled.members) keys ne rfl
      ⟨_, methods⟩ mode⟩

/-- An identifier written raw, if its name allows it. -/
def Ident.rawly (ident : Ident) : Ident := (ofParts? true ident.name).getD ident

theorem Ident.name_rawly (ident : Ident) : ident.rawly.name = ident.name := by
  rw [rawly]
  cases h : ofParts? true ident.name with
  | none => rfl
  | some found =>
    obtain ⟨_, same⟩ := Option.dite_none_right_eq_some.mp h
    obtain rfl := Option.some.inj same
    rfl

/-- A declaration with its identifier and those of its members written raw, if their names allow
it. -/
def Declaration.rawly (declaration : Declaration) : Declaration :=
  { declaration with
    ident := declaration.ident.rawly
    members := declaration.members.map fun member => { member with ident := member.ident.rawly } }

theorem Declaration.isRespelled_rawly (declaration : Declaration) :
    declaration.IsRespelled declaration.rawly where
  name := declaration.ident.name_rawly
  kind := rfl
  visibility := rfl
  members := by
    rw [rawly, List.forall₂_map_right_iff, List.forall₂_same]
    exact fun member _ => ⟨member.ident.name_rawly, rfl, rfl, rfl, rfl⟩

/-- The class of people with raw identifiers throughout has the same names in its code. -/
theorem generate_respelled_person :
    Settings.standard.resolve = .ok .standard ∧ Declaration.person.kind = .classType ∧
      Declaration.person.rawly.ident.text = "r#Person" ∧
      Declaration.person.rawly.members.map (·.ident.text) =
        ["r#id", "r#note", "r#rank", "r#type", "r#age"] ∧
      Declaration.person.IsRespelled Declaration.person.rawly ∧
      ∃ artifact artifact', Generator.generate .standard .person .both = .ok artifact ∧
        Generator.generate .standard Declaration.person.rawly .both = .ok artifact' ∧
        artifact.HasSameNames artifact' := by
  have isClass : Declaration.person.kind = .classType := rfl
  exact ⟨Settings.resolve_standard, isClass, by decide, by decide,
    Declaration.person.isRespelled_rawly,
    generate_respelled Settings.resolve_standard isClass Declaration.person.isRespelled_rawly .both⟩

end KeyedCoding
