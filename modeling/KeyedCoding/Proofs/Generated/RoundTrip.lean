import KeyedCoding.Proofs.Coding.RecordRoundTrip
import KeyedCoding.Proofs.Generated.Running

/-!
# Encoding and decoding objects

What the generated function for encoding writes for an object is read back by the generated
function for decoding.

## Main definitions

* `FieldValue.Fits`: what may stand in a field.
* `ClassObject.ofFields`: the object of a class that holds given values.

## Main results

* `decode_run_encode_run`: an object that is encoded by generated code is decoded again.
-/

namespace KeyedCoding

variable {α : Type}

/-- What may stand in a field: a value that may be absent if the type of the field is optional, and
only values that survive being written and read. -/
structure FieldValue.Fits (codecs : Codecs α) (field : Field) (held : FieldValue α) : Prop where
  presence_eq : held.presence = field.presence
  carries : ∀ value, held.value? = some value → (codecs field.valueType).Carries value

/-- The object of a class with some fields that holds given values. -/
def ClassObject.ofFields (fields : List Field) (values : Ident → FieldValue α) : ClassObject α :=
  fun ident => (Field.find? fields ident).map fun field => ⟨field.ty, values ident⟩

/-- A field with its value under its key. -/
def Field.filledWith (codecs : Codecs α) (values : Ident → FieldValue α) (field : Field) :
    FilledField α :=
  ⟨field.key, codecs field.valueType, values field.ident⟩

section Fields

variable {keyMarker : String} {members : List Member} {fields : List Field} {codecs : Codecs α}
  {values : Ident → FieldValue α}

/-- The generated function for encoding writes the values of the fields under their keys, whether or
not they have a JSON form. -/
theorem EncodeBody.toJson_filledWith (context : Context)
    (extracted : fields = Field.extract keyMarker members)
    (distinct : (fields.map Field.ident).Nodup)
    (presences : ∀ field ∈ fields, (values field.ident).presence = field.presence) :
    (EncodeBody.ofFields context fields).toJson (.ofFields context fields) codecs
        (.ofFields fields values) =
      (Record.toJson (fields.map (Field.filledWith codecs values))).mapError .coding := by
  refine toJson_eq ?_
  rw [ofFields, List.forall₂_map_left_iff, List.forall₂_map_right_iff, List.forall₂_same]
  intro field hm
  have hslot : ClassObject.ofFields fields values field.ident =
      some ⟨field.ty, values field.ident⟩ := by
    rw [ClassObject.ofFields, Field.find?_of_mem distinct hm, Option.map_some]
  have hpresence : field.presence = field.ty.presence :=
    Field.presence_eq_of_mem_extract (extracted ▸ hm)
  have held : (values field.ident).presence = field.ty.presence :=
    (presences field hm).trans hpresence
  simp only [filled?, KeyMapping.keyBelow?_ofFields context distinct hm, hslot,
    Field.filledWith, Field.valueType_eq, hpresence, ← held]
  -- Which values a field may hold says whether its type is optional.
  cases hv : values field.ident with
  | required value =>
    rw [hv] at held
    simp [FieldValue.presence, (Ty.presence_eq_required_iff.mp held.symm).1]
  | ifPresent value =>
    rw [hv] at held
    simp [FieldValue.presence, Ty.presence_eq_ifPresent_iff.mp held.symm]

/-- The generated function for encoding writes values that survive under the keys of their
fields. -/
theorem EncodeBody.toJson_ofFields (context : Context)
    (extracted : fields = Field.extract keyMarker members)
    (distinct : (fields.map Field.ident).Nodup)
    (fits : ∀ field ∈ fields, (values field.ident).Fits codecs field) :
    (EncodeBody.ofFields context fields).toJson (.ofFields context fields) codecs
        (.ofFields fields values) =
      (Record.toJson (fields.map (Field.filledWith codecs values))).mapError .coding :=
  toJson_filledWith context extracted distinct fun field hm => (fits field hm).presence_eq

/-- How a field is coded. -/
def Field.schema (codecs : Codecs α) (field : Field) : SchemaField α :=
  ⟨field.key, field.presence, codecs field.valueType⟩

/-- The generated function for decoding reads each field as its type and its key say. -/
theorem DecodeBody.ofJson_schema (context : Context) (distinct : (fields.map Field.ident).Nodup)
    (json : Json) :
    (DecodeBody.ofFields context fields).ofJson (.ofFields context fields) codecs json =
      ((Schema.ofJson (fields.map (Field.schema codecs)) json).mapError .coding).map
        (List.zipWith (fun field filled => (field.ident, filled.held)) fields) := by
  have schemas : List.Forall₂ (fun statement field =>
      (DecodeBody.ofFields context fields).schema? (.ofFields context fields) codecs statement =
        some field)
      (DecodeBody.ofFields context fields).statements (fields.map (Field.schema codecs)) := by
    rw [ofFields, List.forall₂_map_left_iff, List.forall₂_map_right_iff, List.forall₂_same]
    intro field hm
    rw [schema?, KeyMapping.keyBelow?_ofFields context distinct hm, Option.map_some]
    rfl
  rw [ofJson_eq schemas]
  congr 1
  funext record
  rw [ofFields, List.zipWith_map_left]

/-- The generated function for decoding reads the values of the fields from under their keys. -/
theorem DecodeBody.ofJson_ofFields (context : Context)
    (distinct : (fields.map Field.ident).Nodup)
    (fits : ∀ field ∈ fields, (values field.ident).Fits codecs field) (json : Json) :
    (DecodeBody.ofFields context fields).ofJson (.ofFields context fields) codecs json =
      (((Record.schema (fields.map (Field.filledWith codecs values))).ofJson json).mapError
        .coding).map
        (List.zipWith (fun field filled => (field.ident, filled.held)) fields) := by
  have schemas : fields.map (Field.schema codecs) =
      Record.schema (fields.map (Field.filledWith codecs values)) := by
    rw [Record.schema, List.map_map]
    refine List.map_congr_left fun field hm => ?_
    simp [Field.schema, Field.filledWith, FilledField.schema, (fits field hm).presence_eq]
  rw [ofJson_schema context distinct, schemas]

end Fields

/-- **Objects survive generated code.** Let the fields of a class have distinct identifiers and
distinct keys, and let an object of the class hold values that survive being written and read one
by one. The generated function for encoding then succeeds on this object, and the generated
function for decoding gives back its fields in their order, except that an optional value that is
written as `null` is absent afterwards. The two functions may be generated together or apart. -/
theorem decode_run_encode_run (settings : ResolvedSettings) {declaration : Declaration}
    (isClass : declaration.kind = .classType) {writing reading : Mode}
    (encodes : writing.encodes = true) (decodes : reading.decodes = true)
    (codecs : Codecs α) (values : Ident → FieldValue α)
    (idents : ((Generator.fields settings declaration).map Field.ident).Nodup)
    (keys : ((Generator.fields settings declaration).map Field.key).Nodup)
    (fits : ∀ field ∈ Generator.fields settings declaration,
      (values field.ident).Fits codecs field) :
    ∃ writer reader encode decode json,
      Generator.generate settings declaration writing = .ok writer ∧
      Generator.generate settings declaration reading = .ok reader ∧
      writer.encode = some encode ∧ reader.decode = some decode ∧
      encode.toJson writer.keyMapping codecs
        (.ofFields (Generator.fields settings declaration) values) = .ok json ∧
      decode.ofJson reader.keyMapping codecs json =
        .ok ((Generator.fields settings declaration).map fun field =>
          (field.ident, (values field.ident).reread (codecs field.valueType))) := by
  set fields := Generator.fields settings declaration with hfields
  let record : Record α := fields.map (Field.filledWith codecs values)
  have hkeys : (record.map FilledField.key).Nodup := by
    simpa [record, Function.comp_def, Field.filledWith] using keys
  have carried : ∀ filled ∈ record, filled.IsCarried := by
    intro filled hm
    obtain ⟨field, hf, rfl⟩ := List.mem_map.mp hm
    exact (fits field hf).carries
  obtain ⟨json, hw, hr⟩ := Record.ofJson_toJson hkeys carried
  refine ⟨_, _, _, _, json, Generator.generate_of_isClass isClass settings writing,
    Generator.generate_of_isClass isClass settings reading, if_pos encodes, if_pos decodes, ?_, ?_⟩
  · exact (EncodeBody.toJson_ofFields _ hfields idents fits).trans (by rw [hw]; rfl)
  · refine (DecodeBody.ofJson_ofFields _ idents fits json).trans ?_
    rw [hr]
    simp [Except.mapError, Except.map, record, List.zipWith_map_right, List.zipWith_self,
      FilledField.reread, Field.filledWith]

/-- What a person holds: the rank is there, but is nothing. -/
def ClassObject.personValues (ident : Ident) : FieldValue Json :=
  if ident.name = "id" then .required (.integer 3)
  else if ident.name = "note" then .ifPresent (some (.integer 4))
  else if ident.name = "rank" then .ifPresent (some .null)
  else .required (.string "guest")

/-- A rank that is nothing is absent after it has been decoded, and all else is kept. -/
theorem decode_run_encode_run_person :
    ∃ writer reader encode decode json,
      Generator.generate .standard .person .encodeOnly = .ok writer ∧
      Generator.generate .standard .person .both = .ok reader ∧
      writer.encode = some encode ∧ reader.decode = some decode ∧
      encode.toJson writer.keyMapping (fun _ => ⟨.ok, .ok⟩)
        (.ofFields (Generator.fields .standard .person) ClassObject.personValues) = .ok json ∧
      decode.ofJson reader.keyMapping (fun _ => ⟨.ok, .ok⟩) json =
        .ok [(⟨false, "id", by decide⟩, .required (.integer 3)),
          (⟨false, "note", by decide⟩, .ifPresent (some (.integer 4))),
          (⟨false, "rank", by decide⟩, .ifPresent none),
          (⟨true, "type", by decide⟩, .required (.string "guest"))] :=
  decode_run_encode_run .standard rfl rfl rfl (fun _ => ⟨.ok, .ok⟩) ClassObject.personValues
    (by decide) (by decide) fun field hf => by
      refine ⟨?_, fun value _ => ⟨value, rfl, rfl⟩⟩
      have presence : ∀ other ∈ Generator.fields .standard .person,
          (ClassObject.personValues other.ident).presence = other.presence := by decide
      exact presence field hf

end KeyedCoding
