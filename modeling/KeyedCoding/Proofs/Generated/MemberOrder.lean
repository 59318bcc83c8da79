import KeyedCoding.Proofs.Coding.FieldReordering
import KeyedCoding.Proofs.Generated.RoundTrip

/-!
# The order of the members of a class

Two declarations of a class that have the same members in another order have different code, but
their objects have the same JSON form: what the generated functions of the one write, those of the
other write and read as well.

## Main results

* `Generator.run_encode_perm`: the functions that encode write the same object.
* `Generator.run_decode_perm`: the functions that decode read the same values.
-/

namespace KeyedCoding

/-- Generated code that compiles can still fail to encode or to decode. -/
def RunFault.IsCoding (fault : RunFault) : Prop := ∃ error, fault = .coding error

namespace Generator

variable {α : Type} {settings : ResolvedSettings} {declaration declaration' : Declaration}

/-- Fields come in the order of the members. -/
theorem fields_perm (settings : ResolvedSettings)
    (reordered : declaration.members.Perm declaration'.members) :
    (fields settings declaration).Perm (fields settings declaration') :=
  reordered.filterMap _

/-- Whatever values the fields of a class hold, the functions that are generated for two orders of
its members write the same object for them, or both fail. -/
theorem run_encode_perm (isClass : declaration.kind = .classType)
    (isClass' : declaration'.kind = .classType)
    (reordered : declaration.members.Perm declaration'.members) {mode : Mode}
    (encodes : mode.encodes = true) (codecs : Codecs α) (values : Ident → FieldValue α)
    (idents : ((fields settings declaration).map Field.ident).Nodup)
    (keys : ((fields settings declaration).map Field.key).Nodup)
    (presences : ∀ field ∈ fields settings declaration,
      (values field.ident).presence = field.presence) :
    ∃ artifact artifact' body body', generate settings declaration mode = .ok artifact ∧
      generate settings declaration' mode = .ok artifact' ∧
      artifact.encode = some body ∧ artifact'.encode = some body' ∧
      RunsAgree RunFault.IsCoding (· = ·)
        (body.toJson artifact.keyMapping codecs (.ofFields (fields settings declaration) values))
        (body'.toJson artifact'.keyMapping codecs
          (.ofFields (fields settings declaration') values)) := by
  have same := fields_perm settings reordered
  have idents' : ((fields settings declaration').map Field.ident).Nodup :=
    (same.map Field.ident).nodup idents
  have presences' : ∀ field ∈ fields settings declaration',
      (values field.ident).presence = field.presence := fun field hm =>
    presences field (same.mem_iff.mpr hm)
  have distinct : (((fields settings declaration).map (Field.filledWith codecs values)).map
      FilledField.key).Nodup := by
    rwa [List.map_map]
  refine ⟨_, _, _, _, generate_of_isClass isClass settings mode,
    generate_of_isClass isClass' settings mode, if_pos encodes, if_pos encodes, ?_⟩
  have extracted (declaration : Declaration) : fields settings declaration =
      Field.extract settings.keyMarker declaration.members := rfl
  simp only [Artifact.ofFields]
  rw [EncodeBody.toJson_filledWith _ (extracted declaration) idents presences,
    EncodeBody.toJson_filledWith _ (extracted declaration') idents' presences']
  exact (Record.toJson_perm (same.map _) distinct).mapError fun error _ => ⟨error, rfl⟩

/-- From every JSON value the functions that are generated for two orders of the members of a class
read the same value for each field, or both fail. -/
theorem run_decode_perm (isClass : declaration.kind = .classType)
    (isClass' : declaration'.kind = .classType)
    (reordered : declaration.members.Perm declaration'.members) {mode : Mode}
    (decodes : mode.decodes = true) (codecs : Codecs α)
    (idents : ((fields settings declaration).map Field.ident).Nodup)
    (keys : ((fields settings declaration).map Field.key).Nodup) (json : Json) :
    ∃ artifact artifact' body body', generate settings declaration mode = .ok artifact ∧
      generate settings declaration' mode = .ok artifact' ∧
      artifact.decode = some body ∧ artifact'.decode = some body' ∧
      RunsAgree RunFault.IsCoding List.Perm (body.ofJson artifact.keyMapping codecs json)
        (body'.ofJson artifact'.keyMapping codecs json) := by
  have same := fields_perm settings reordered
  have idents' : ((fields settings declaration').map Field.ident).Nodup :=
    (same.map Field.ident).nodup idents
  have distinct : (((fields settings declaration).map (Field.schema codecs)).map
      SchemaField.key).Nodup := by
    rwa [List.map_map]
  refine ⟨_, _, _, _, generate_of_isClass isClass settings mode,
    generate_of_isClass isClass' settings mode, if_pos decodes, if_pos decodes, ?_⟩
  simp only [Artifact.ofFields, DecodeBody.ofJson_schema _ idents,
    DecodeBody.ofJson_schema _ idents']
  refine ((Schema.ofJson_perm (same.map _) distinct json).mapError
    fun error _ => ⟨error, rfl⟩).map ?_
  rintro _ _ ⟨values, rfl, rfl⟩
  simp only [Schema.fillWith, List.map_map, List.zipWith_map_right, List.zipWith_self]
  exact same.map _

end Generator

end KeyedCoding
