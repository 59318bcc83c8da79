import KeyedCoding.Proofs.Coding.RecordRoundTrip
import KeyedCoding.Proofs.Json.Entries

/-!
# Decoding field by field

A record is decoded from an object if the object has what each field asks for, and otherwise the
first field that misses it gives the error. A field looks at nothing but its own key, so that keys
may be repeated, and entries under other keys do not matter.

## Main definitions

* `SchemaField.IsMet`: an object has what a field asks for.
* `SchemaField.Reads`, `SchemaField.Fails`: what a field holds after it has been read, and the error
  that it gives.

## Main results

* `SchemaField.decodeFrom_eq_ok_iff_reads`, `SchemaField.decodeFrom_eq_error_iff_fails`: decoding a
  field.
* `Schema.decodeFrom_eq_error_iff`: the first field that fails gives the error.
* `ofJson_fieldwise`: decoding a record.
-/

namespace KeyedCoding

variable {α : Type}

/-- The first item of a list with a property is its head, unless the head can be passed over. -/
theorem exists_first_cons_iff {β : Type} {passed found : β → Prop} {head : β} {tail : List β} :
    (∃ before item after, head :: tail = before ++ item :: after ∧
        (∀ earlier ∈ before, passed earlier) ∧ found item) ↔
      found head ∨ passed head ∧ ∃ before item after, tail = before ++ item :: after ∧
        (∀ earlier ∈ before, passed earlier) ∧ found item := by
  constructor
  · rintro ⟨before, item, after, split, pass, find⟩
    cases before with
    | nil =>
      obtain ⟨rfl, -⟩ := List.cons_eq_cons.mp split
      exact .inl find
    | cons first before =>
      obtain ⟨rfl, rfl⟩ := List.cons_eq_cons.mp split
      obtain ⟨passHead, pass⟩ := List.forall_mem_cons.mp pass
      exact .inr ⟨passHead, before, item, after, rfl, pass, find⟩
  · rintro (find | ⟨passHead, before, item, after, rfl, pass, find⟩)
    · exact ⟨[], head, tail, rfl, by simp, find⟩
    · exact ⟨head :: before, item, after, rfl, List.forall_mem_cons.mpr ⟨passHead, pass⟩, find⟩

namespace SchemaField

/-- An object has what a field asks for: a value that fits under its key. If the value may be
absent, the entry may be missing or `null` as well. -/
def IsMet (field : SchemaField α) (entries : Json.Entries) : Prop :=
  match field.presence with
  | .required => ∃ json value, entries.lookup field.key = some json ∧
      field.codec.deserialize json = .ok value
  | .ifPresent => entries.lookup field.key = none ∨ entries.lookup field.key = some .null ∨
      ∃ json value, entries.lookup field.key = some json ∧ field.codec.deserialize json = .ok value

/-- What a field holds after it has been read from an object. -/
inductive Reads (field : SchemaField α) (entries : Json.Entries) : FieldValue α → Prop
  | required {json value} (presence : field.presence = .required)
      (found : entries.lookup field.key = some json)
      (fits : field.codec.deserialize json = .ok value) : Reads field entries (.required value)
  | present {json value} (presence : field.presence = .ifPresent)
      (found : entries.lookup field.key = some json) (notNull : json ≠ .null)
      (fits : field.codec.deserialize json = .ok value) :
      Reads field entries (.ifPresent (some value))
  | absent (presence : field.presence = .ifPresent)
      (found : entries.lookup field.key = none ∨ entries.lookup field.key = some .null) :
      Reads field entries (.ifPresent none)

/-- The error that a field gives when it is read from an object. -/
inductive Fails (field : SchemaField α) (entries : Json.Entries) : CodingError → Prop
  | missing (presence : field.presence = .required) (found : entries.lookup field.key = none) :
      Fails field entries (.missingKey field.key)
  | mismatch {json mismatch} (found : entries.lookup field.key = some json)
      (notNull : field.presence = .ifPresent → json ≠ .null)
      (misfit : field.codec.deserialize json = .error mismatch) :
      Fails field entries (.typeMismatch field.key mismatch)

variable {field : SchemaField α} {entries : Json.Entries}

/-- Reading a field gives a value or an error, as these two relations say. -/
private theorem reads_or_fails (field : SchemaField α) (entries : Json.Entries) :
    (∃ held, field.decodeFrom entries = .ok (field.fill held) ∧ field.Reads entries held) ∨
      ∃ error, field.decodeFrom entries = .error error ∧ field.Fails entries error := by
  rw [decodeFrom_eq, Json.Entries.get?_eq_lookup]
  cases presence : field.presence with
  | required =>
    cases found : entries.lookup field.key with
    | none =>
      refine .inr ⟨_, ?_, .missing presence found⟩
      simp [read, presence, Except.map]
    | some json =>
      cases result : field.codec.deserialize json with
      | ok value =>
        refine .inl ⟨.required value, ?_, .required presence found result⟩
        simp [read, presence, Json.Entries.decodeAt, result, Except.map]
      | error mismatch =>
        refine .inr ⟨_, ?_, .mismatch found (by simp [presence]) result⟩
        simp [read, presence, Json.Entries.decodeAt, result, Except.map]
  | ifPresent =>
    cases found : entries.lookup field.key with
    | none =>
      refine .inl ⟨.ifPresent none, ?_, .absent presence (.inl found)⟩
      simp [read, presence, Except.map]
    | some json =>
      by_cases null : json = .null
      · subst null
        refine .inl ⟨.ifPresent none, ?_, .absent presence (.inr found)⟩
        simp [read, presence, Except.map]
      · cases result : field.codec.deserialize json with
        | ok value =>
          refine .inl ⟨.ifPresent (some value), ?_, .present presence found null result⟩
          simp [read, presence, Json.Entries.decodeAt, result, Except.map]
        | error mismatch =>
          refine .inr ⟨_, ?_, .mismatch found (fun _ => null) result⟩
          simp [read, presence, Json.Entries.decodeAt, result, Except.map]

private theorem Reads.unique {held held' : FieldValue α} (h : field.Reads entries held)
    (h' : field.Reads entries held') : held = held' := by
  cases h <;> cases h' <;> simp_all

private theorem Reads.not_fails {held : FieldValue α} {error : CodingError}
    (h : field.Reads entries held) : ¬field.Fails entries error := by
  rintro (_ | _) <;> cases h <;> simp_all

private theorem Fails.unique {error error' : CodingError} (h : field.Fails entries error)
    (h' : field.Fails entries error') : error = error' := by
  cases h <;> cases h' <;> simp_all

/-- Decoding a field gives the field with the value that is read. -/
theorem decodeFrom_eq_ok_iff_reads {filled : FilledField α} :
    field.decodeFrom entries = .ok filled ↔
      ∃ held, field.Reads entries held ∧ filled = field.fill held := by
  constructor
  · intro h
    rcases field.reads_or_fails entries with ⟨held, hd, hr⟩ | ⟨error, hd, -⟩
    · exact ⟨held, hr, Except.ok.inj (h.symm.trans hd)⟩
    · rw [hd] at h
      exact nomatch h
  · rintro ⟨held, hr, rfl⟩
    rcases field.reads_or_fails entries with ⟨held', hd, hr'⟩ | ⟨error, -, hf⟩
    · rw [hd, hr.unique hr']
    · exact absurd hf hr.not_fails

/-- Decoding a field gives the error with which it fails. -/
theorem decodeFrom_eq_error_iff_fails {error : CodingError} :
    field.decodeFrom entries = .error error ↔ field.Fails entries error := by
  constructor
  · intro h
    rcases field.reads_or_fails entries with ⟨held, hd, -⟩ | ⟨error', hd, hf⟩
    · rw [hd] at h
      exact nomatch h
    · exact Except.error.inj (h.symm.trans hd) ▸ hf
  · intro hf
    rcases field.reads_or_fails entries with ⟨held, -, hr⟩ | ⟨error', hd, hf'⟩
    · exact absurd hf hr.not_fails
    · rw [hd, hf.unique hf']

/-- A field can be read exactly from the objects that have what it asks for. -/
theorem isMet_iff_exists_reads : field.IsMet entries ↔ ∃ held, field.Reads entries held := by
  cases presence : field.presence with
  | required =>
    rw [IsMet, presence]
    constructor
    · rintro ⟨json, value, found, fits⟩
      exact ⟨_, .required presence found fits⟩
    · rintro ⟨held, h⟩
      cases h with
      | required _ found fits => exact ⟨_, _, found, fits⟩
      | present optional => simp [presence] at optional
      | absent optional => simp [presence] at optional
  | ifPresent =>
    rw [IsMet, presence]
    constructor
    · rintro (found | found | ⟨json, value, found, fits⟩)
      · exact ⟨_, .absent presence (.inl found)⟩
      · exact ⟨_, .absent presence (.inr found)⟩
      · by_cases null : json = .null
        · exact ⟨_, .absent presence (.inr (null ▸ found))⟩
        · exact ⟨_, .present presence found null fits⟩
    · rintro ⟨held, h⟩
      cases h with
      | required required => simp [presence] at required
      | present _ found _ fits => exact .inr (.inr ⟨_, _, found, fits⟩)
      | absent _ found => exact found.imp_right .inl

/-- A field fails exactly on the objects that lack what it asks for. -/
theorem Fails.not_isMet {error : CodingError} (h : field.Fails entries error) :
    ¬field.IsMet entries := by
  rw [isMet_iff_exists_reads]
  rintro ⟨held, hr⟩
  exact hr.not_fails h

/-- A field that fails misses its key if it must be there and is not, and else has a value of
another type under it. -/
theorem Fails.missingKey_or_typeMismatch {error : CodingError} (h : field.Fails entries error) :
    (error = .missingKey field.key ↔
        field.presence = .required ∧ entries.lookup field.key = none) ∧
      (error ≠ .missingKey field.key → ∃ mismatch, error = .typeMismatch field.key mismatch) := by
  cases h with
  | missing presence found => simp [presence, found]
  | mismatch found => simp [found]

/-- What is read for a field depends on its own key only. -/
theorem decodeFrom_congr {entries' : Json.Entries}
    (h : entries.lookup field.key = entries'.lookup field.key) :
    field.decodeFrom entries = field.decodeFrom entries' := by
  rw [decodeFrom_eq, decodeFrom_eq, Json.Entries.get?_eq_lookup, h, Json.Entries.get?_eq_lookup]

end SchemaField

namespace Schema

variable {schema : Schema α} {entries : Json.Entries}

/-- A record can be decoded from the objects that have what each field asks for. -/
theorem exists_decodeFrom_iff : (∃ record, schema.decodeFrom entries = .ok record) ↔
    ∀ field ∈ schema, field.IsMet entries := by
  simp only [decodeFrom_eq_ok_iff]
  induction schema with
  | nil => simp
  | cons field rest ih =>
    have first : (∃ filled, field.decodeFrom entries = .ok filled) ↔ field.IsMet entries := by
      simp only [SchemaField.decodeFrom_eq_ok_iff_reads, SchemaField.isMet_iff_exists_reads]
      exact ⟨fun ⟨_, held, hr, _⟩ => ⟨held, hr⟩, fun ⟨held, hr⟩ => ⟨_, held, hr, rfl⟩⟩
    simp only [List.forall₂_cons_left_iff, List.forall_mem_cons, ← ih, ← first]
    constructor
    · rintro ⟨_, filled, others, hf, hr, -⟩
      exact ⟨⟨filled, hf⟩, others, hr⟩
    · rintro ⟨⟨filled, hf⟩, others, hr⟩
      exact ⟨_, filled, others, hf, hr, rfl⟩

/-- **The first field that fails gives the error.** -/
theorem decodeFrom_eq_error_iff {error : CodingError} :
    schema.decodeFrom entries = .error error ↔ ∃ before field after,
      schema = before ++ field :: after ∧ (∀ earlier ∈ before, earlier.IsMet entries) ∧
        field.Fails entries error := by
  induction schema with
  | nil => simp [decodeFrom]
  | cons first rest ih =>
    rw [exists_first_cons_iff, ← ih, decodeFrom]
    cases hd : first.decodeFrom entries with
    | error error' =>
      have fails := SchemaField.decodeFrom_eq_error_iff_fails.mp hd
      have same : (Except.error error' : Except CodingError (Record α)) = .error error ↔
          first.Fails entries error := by
        rw [Except.error.injEq]
        exact ⟨fun he => he ▸ fails, fails.unique⟩
      simpa [fails.not_isMet] using same
    | ok filled =>
      obtain ⟨held, reads, -⟩ := SchemaField.decodeFrom_eq_ok_iff_reads.mp hd
      have met : first.IsMet entries := SchemaField.isMet_iff_exists_reads.mpr ⟨held, reads⟩
      cases decodeFrom rest entries <;> simp [Except.map, met, reads.not_fails]

/-- Objects from which each field is read in the same way give the same record. -/
theorem decodeFrom_congr {entries' : Json.Entries}
    (h : ∀ field ∈ schema, field.decodeFrom entries = field.decodeFrom entries') :
    schema.decodeFrom entries = schema.decodeFrom entries' := by
  induction schema with
  | nil => rfl
  | cons field rest ih =>
    obtain ⟨hf, hr⟩ := List.forall_mem_cons.mp h
    rw [decodeFrom, decodeFrom, hf, ih hr]

end Schema

/-- **Records are decoded field by field.** For every schema, also with repeated keys, and every
JSON value:

* there is a record if and only if the value is an object that has what each field asks for;
* each field of the record then holds what is read for it;
* on an object without a record the error is that of the first field in the order of the schema
  whose demand is not met. It tells that the key of this field is missing if the field must be
  there and the object has no entry under its key, and else that the value under it has another
  type;
* of any other value the error tells what it is instead of an object;
* objects that agree under the keys of the schema give the same. -/
theorem ofJson_fieldwise (schema : Schema α) (json : Json) :
    ((∃ record, schema.ofJson json = .ok record) ↔
      ∃ entries, json = .object entries ∧ ∀ field ∈ schema, field.IsMet entries) ∧
    (∀ (entries : Json.Entries) record, json = .object entries → schema.ofJson json = .ok record →
      List.Forall₂ (fun field filled => filled.key = field.key ∧ filled.codec = field.codec ∧
        field.Reads entries filled.held) schema record) ∧
    (∀ (entries : Json.Entries) error, json = .object entries → schema.ofJson json = .error error →
      ∃ before field after, schema = before ++ field :: after ∧
        (∀ earlier ∈ before, earlier.IsMet entries) ∧ ¬field.IsMet entries ∧
        (error = .missingKey field.key ↔
          field.presence = .required ∧ entries.lookup field.key = none) ∧
        (error ≠ .missingKey field.key →
          ∃ mismatch, error = .typeMismatch field.key mismatch)) ∧
    ((∀ entries, json ≠ .object entries) → schema.ofJson json = .error (.notAnObject json)) ∧
    (∀ entries entries' : Json.Entries, json = .object entries →
      (∀ field ∈ schema, entries.lookup field.key = entries'.lookup field.key) →
      schema.ofJson (.object entries') = schema.ofJson json) := by
  refine ⟨?_, ?_, ?_, ?_, ?_⟩
  · cases json with
    | object entries =>
      change (∃ record, schema.decodeFrom entries = .ok record) ↔ _
      simp [Schema.exists_decodeFrom_iff]
    | _ => simp [Schema.ofJson, Json.entries?]
  · rintro entries record rfl h
    refine (Schema.decodeFrom_eq_ok_iff.mp h).imp fun field filled hd => ?_
    obtain ⟨held, hr, rfl⟩ := SchemaField.decodeFrom_eq_ok_iff_reads.mp hd
    exact ⟨rfl, rfl, hr⟩
  · rintro entries error rfl h
    obtain ⟨before, field, after, split, met, fails⟩ := Schema.decodeFrom_eq_error_iff.mp h
    exact ⟨before, field, after, split, met, fails.not_isMet, fails.missingKey_or_typeMismatch⟩
  · intro h
    cases json with
    | object entries => exact absurd rfl (h entries)
    | _ => rfl
  · rintro entries entries' rfl h
    exact (Schema.decodeFrom_congr fun field hm => SchemaField.decodeFrom_congr (h field hm)).symm

end KeyedCoding
