import KeyedCoding.Coding.Record

/-!
# Writing and reading a field

Encoding a field changes an object in one entry at most, and decoding a field depends on what is
found under its key only. All results about whole records go through these two facts.

## Main definitions

* `FilledField.written?`: what a field is written as, unless it is absent.
* `SchemaField.read`: what a field holds, given what is found under its key.
* `Codec.Carries`: a value that survives being written and read.
* `FieldValue.reread`: what a field holds after it has been written and read.

## Main results

* `FilledField.encodeInto_eq`, `SchemaField.decodeFrom_eq`: writing and reading a field.
* `FilledField.read_put`: reading what has been written.
-/

namespace KeyedCoding

variable {α : Type}

namespace Codec

/-- A value survives being written and read: it has a JSON form, which stands for that value. -/
def Carries (codec : Codec α) (value : α) : Prop :=
  ∃ json, codec.serialize value = .ok json ∧ codec.deserialize json = .ok value

end Codec

namespace FieldValue

/-- The value in a field, if there is one. -/
def value? : FieldValue α → Option α
  | required value => some value
  | ifPresent value => value

/-- What a field holds after it has been written and read: a value that may be absent is lost if it
is written as `null`, and everything else is kept. -/
def reread (codec : Codec α) : FieldValue α → FieldValue α
  | required value => required value
  | ifPresent none => ifPresent none
  | ifPresent (some value) =>
    match codec.serialize value with
    | .ok .null => ifPresent none
    | _ => ifPresent (some value)

end FieldValue

namespace FilledField

/-- What a field is written as, unless it is absent. -/
def written? (field : FilledField α) : Option (Except EncodeFault Json) :=
  field.held.value?.map field.codec.serialize

/-- Encoding a field that is absent changes nothing. A present value is put under the key of the
field, or names this key in an error if it has no JSON form. -/
theorem encodeInto_eq (field : FilledField α) (entries : Json.Entries) :
    field.encodeInto entries =
      match field.written? with
      | none => .ok entries
      | some (.ok json) => .ok (entries.insert field.key json)
      | some (.error fault) => .error (.encode field.key fault) := by
  obtain ⟨key, codec, held⟩ := field
  rcases held with value | (_ | value)
  · simp only [encodeInto, Json.Entries.encode, written?, FieldValue.value?, Option.map_some]
    cases codec.serialize value <;> rfl
  · rfl
  · simp only [encodeInto, Json.Entries.encodeIfPresent, Json.Entries.encode, written?,
      FieldValue.value?, Option.map_some]
    cases codec.serialize value <;> rfl

/-- Every value in a field survives being written and read. -/
def IsCarried (field : FilledField α) : Prop :=
  ∀ value, field.held.value? = some value → field.codec.Carries value

/-- A field whose value survives is written as nothing or as a JSON value. -/
theorem IsCarried.written? {field : FilledField α} (h : field.IsCarried) :
    field.written? = none ∨ ∃ json, field.written? = some (.ok json) := by
  cases hv : field.held.value? with
  | none => exact Or.inl (by simp [FilledField.written?, hv])
  | some value =>
    obtain ⟨json, hs, -⟩ := h value hv
    exact Or.inr ⟨json, by simp [FilledField.written?, hv, hs]⟩

/-- The JSON value that a field leaves under its key. -/
def put? (field : FilledField α) : Option Json :=
  field.written?.bind Except.toOption

/-- The field after it has been written and read. -/
def reread (field : FilledField α) : FilledField α :=
  { field with held := field.held.reread field.codec }

end FilledField

namespace SchemaField

open Json.Entries

/-- What a field holds, given what is found under its key. -/
def read (field : SchemaField α) (found : Option Json) : Except CodingError (FieldValue α) :=
  match field.presence, found with
  | .required, none => .error (.missingKey field.key)
  | .required, some json => (decodeAt field.codec field.key json).map .required
  | .ifPresent, none => .ok (.ifPresent none)
  | .ifPresent, some .null => .ok (.ifPresent none)
  | .ifPresent, some json => (decodeAt field.codec field.key json).map fun value =>
      .ifPresent (some value)

private theorem map_map_result {ε β γ δ : Type} (f : β → γ) (g : γ → δ) (result : Except ε β) :
    (result.map f).map g = result.map fun value => g (f value) := by
  cases result <;> rfl

/-- Decoding a field looks at nothing but what stands under its key. -/
theorem decodeFrom_eq (field : SchemaField α) (entries : Json.Entries) :
    field.decodeFrom entries = (field.read (entries.get? field.key)).map field.fill := by
  obtain ⟨key, presence, codec⟩ := field
  cases presence with
  | required =>
    simp only [decodeFrom, decode, read]
    cases entries.get? key with
    | none => rfl
    | some json => simp only [map_map_result]
  | ifPresent =>
    simp only [decodeFrom, decodeIfPresent, read]
    cases entries.get? key with
    | none => rfl
    | some json =>
      cases json with
      | null => rfl
      | _ => simp only [map_map_result]

end SchemaField

/-- **Reading what has been written.** A field whose value survives is read back from what it left
under its key, except for an optional value that was written as `null`. -/
theorem FilledField.read_put {field : FilledField α} (h : field.IsCarried) :
    field.schema.read field.put? = .ok (field.held.reread field.codec) := by
  obtain ⟨key, codec, held⟩ := field
  rcases held with value | (_ | value)
  · obtain ⟨json, hs, hd⟩ : codec.Carries value := h value rfl
    have he : put? ⟨key, codec, .required value⟩ = some json := by
      simp [put?, written?, FieldValue.value?, hs, Except.toOption]
    rw [he]
    simp [schema, SchemaField.read, FieldValue.presence, Json.Entries.decodeAt, hd, Except.map,
      FieldValue.reread]
  · rfl
  · obtain ⟨json, hs, hd⟩ : codec.Carries value := h value rfl
    have he : put? ⟨key, codec, .ifPresent (some value)⟩ = some json := by
      simp [put?, written?, FieldValue.value?, hs, Except.toOption]
    rw [he]
    cases json <;> simp [schema, SchemaField.read, FieldValue.presence, Json.Entries.decodeAt, hs,
      hd, Except.map, FieldValue.reread]

end KeyedCoding
