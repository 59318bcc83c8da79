import KeyedCoding.Proofs.Coding.FaithfulTypes
import KeyedCoding.Proofs.Coding.FieldwiseDecoding
import KeyedCoding.Proofs.Json.Entries

/-!
# The canonical form of an object

Many objects are decoded as the same record. A schema does not look at entries under other keys, and
to a field whose value may be absent a missing entry and `null` are the same. Encoding the record
gives one of these objects, which has none of the entries that do not matter.

## Main definitions

* `SchemaField.keeps`: a field tells a JSON value under its key from a missing entry.
* `Schema.restrict`: an object without the entries that a schema does not look at.

## Main results

* `SchemaField.read_filter_keeps`: the entries that are left out do not matter to a field.
* `SchemaField.Reads.put?_eq`: what a field writes after it has been read.
* `Record.encodeInto_ascending`: an object is written in the order of its keys.
* `toJson_of_ofJson`: encoding a decoded record.
-/

namespace KeyedCoding

variable {α : Type}

theorem exists_right_of_forall₂ {β γ : Type} {related : β → γ → Prop} {left : List β}
    {right : List γ} (h : List.Forall₂ related left right) {a : β} (ha : a ∈ left) :
    ∃ b ∈ right, related a b := by
  induction h with
  | nil => exact nomatch ha
  | cons head _ ih =>
    rcases List.mem_cons.mp ha with rfl | ha
    · exact ⟨_, List.mem_cons_self, head⟩
    · obtain ⟨b, hb, hab⟩ := ih ha
      exact ⟨b, List.mem_cons_of_mem _ hb, hab⟩

theorem exists_left_of_forall₂ {β γ : Type} {related : β → γ → Prop} {left : List β}
    {right : List γ} (h : List.Forall₂ related left right) {b : γ} (hb : b ∈ right) :
    ∃ a ∈ left, related a b :=
  exists_right_of_forall₂ (List.Forall₂.flip h) hb

namespace SchemaField

/-- A field tells a JSON value under its key from a missing entry. Only `null` under a key whose
value may be absent is no different from a missing entry. -/
def keeps (field : SchemaField α) (json : Json) : Bool :=
  match field.presence, json with
  | .ifPresent, .null => false
  | _, _ => true

variable {field : SchemaField α} {entries : Json.Entries}

theorem keeps_of_required (presence : field.presence = .required) (json : Json) :
    field.keeps json = true := by
  simp [keeps, presence]

theorem keeps_of_ne_null {json : Json} (notNull : json ≠ .null) : field.keeps json = true := by
  unfold keeps
  split
  · exact absurd rfl notNull
  · rfl

theorem keeps_null_of_ifPresent (presence : field.presence = .ifPresent) :
    field.keeps .null = false := by
  simp [keeps, presence]

/-- The entries that a field does not keep do not matter to it. -/
theorem read_filter_keeps (field : SchemaField α) (found : Option Json) :
    field.read (found.filter field.keeps) = field.read found := by
  cases found with
  | none => rfl
  | some json =>
    by_cases kept : field.keeps json = true
    · rw [Option.filter_some_pos kept]
    · have dropped : field.presence = .ifPresent ∧ json = .null := by
        unfold keeps at kept
        split at kept
        · exact ⟨‹_›, rfl⟩
        · exact absurd rfl kept
      obtain ⟨presence, rfl⟩ := dropped
      rw [Option.filter_some_neg (Bool.eq_false_iff.mpr kept)]
      simp [read, presence]

/-- **What a field writes after it has been read.** If encoding gives back what was decoded, it is
the entry that was found, unless the field does not keep it. -/
theorem Reads.put?_eq {held : FieldValue α} (h : field.Reads entries held)
    (faithful : field.codec.Faithful) :
    (field.fill held).put? = (entries.get? field.key).filter field.keeps := by
  rw [Json.Entries.get?_eq_lookup]
  cases h with
  | required presence found fits =>
    rw [found, Option.filter_some_pos (keeps_of_required presence _)]
    simp [fill, FilledField.put?, FilledField.written?, FieldValue.value?, faithful _ _ fits,
      Except.toOption]
  | present presence found notNull fits =>
    rw [found, Option.filter_some_pos (keeps_of_ne_null notNull)]
    simp [fill, FilledField.put?, FilledField.written?, FieldValue.value?, faithful _ _ fits,
      Except.toOption]
  | absent presence found =>
    rcases found with found | found
    · rw [found]
      rfl
    · rw [found, Option.filter_some_neg (by simp [keeps_null_of_ifPresent presence])]
      rfl

/-- A value that has been read survives being written and read again. -/
theorem Reads.isCarried {held : FieldValue α} (h : field.Reads entries held)
    (faithful : field.codec.Faithful) : (field.fill held).IsCarried := by
  intro value hv
  cases h with
  | required presence found fits =>
    obtain rfl := Option.some.inj hv
    exact ⟨_, faithful _ _ fits, fits⟩
  | present presence found notNull fits =>
    obtain rfl := Option.some.inj hv
    exact ⟨_, faithful _ _ fits, fits⟩
  | absent => exact nomatch hv

end SchemaField

/-- Writing a field keeps the order of the keys. -/
theorem FilledField.encodeInto_ascending {field : FilledField α} {entries entries' : Json.Entries}
    (h : field.encodeInto entries = .ok entries') (ascending : entries.Ascending) :
    entries'.Ascending := by
  rw [encodeInto_eq] at h
  rcases hw : field.written? with - | fault | json
  · simp only [hw, Except.ok.injEq] at h
    exact h ▸ ascending
  · simp [hw] at h
  · simp only [hw, Except.ok.injEq] at h
    exact h ▸ ascending.insert field.key json

/-- Writing a record keeps the order of the keys. -/
theorem Record.encodeInto_ascending {record : Record α} {entries entries' : Json.Entries}
    (h : record.encodeInto entries = .ok entries') (ascending : entries.Ascending) :
    entries'.Ascending := by
  induction record generalizing entries with
  | nil =>
    simp only [encodeInto, Except.ok.injEq] at h
    exact h ▸ ascending
  | cons field rest ih =>
    simp only [encodeInto] at h
    cases hf : field.encodeInto entries with
    | error error => simp [hf] at h
    | ok between =>
      simp only [hf] at h
      exact ih h (FilledField.encodeInto_ascending hf ascending)

namespace Schema

/-- Whether a field of a schema looks at a JSON value under a key. -/
def keeps (schema : Schema α) (key : String) (json : Json) : Bool :=
  schema.any fun field => field.key == key && field.keeps json

/-- An object without the entries under keys that a schema does not have, and without `null` where
a value may be absent. -/
def restrict (schema : Schema α) (entries : Json.Entries) : Json.Entries :=
  entries.filter fun (key, json) => schema.keeps key json

variable {schema : Schema α} {entries : Json.Entries}

theorem keeps_of_notMem {key : String} (h : key ∉ schema.map SchemaField.key) (json : Json) :
    schema.keeps key json = false := by
  refine List.any_eq_false.mpr fun field hm => ?_
  have other : field.key ≠ key := fun same => h (same ▸ List.mem_map_of_mem hm)
  simp [other]

/-- With distinct keys only one field looks at an entry. -/
theorem keeps_of_mem (distinct : (schema.map SchemaField.key).Nodup) {field : SchemaField α}
    (h : field ∈ schema) (json : Json) : schema.keeps field.key json = field.keeps json := by
  have only : ∀ other ∈ schema, other.key = field.key → other = field := fun other hm same =>
    List.inj_on_of_nodup_map distinct hm h same
  rw [Bool.eq_iff_iff]
  simp only [keeps, List.any_eq_true, Bool.and_eq_true, beq_iff_eq]
  constructor
  · rintro ⟨other, hm, same, kept⟩
    exact only other hm same ▸ kept
  · exact fun kept => ⟨field, h, rfl, kept⟩

/-- The fields of a record that has been decoded, with what has been read for them. -/
theorem reads_of_decodeFrom {record : Record α} (h : schema.decodeFrom entries = .ok record) :
    List.Forall₂ (fun field filled => ∃ held, field.Reads entries held ∧ filled = field.fill held)
      schema record :=
  (decodeFrom_eq_ok_iff.mp h).imp fun _ _ hd => SchemaField.decodeFrom_eq_ok_iff_reads.mp hd

/-- A record that has been decoded has the keys of its schema. -/
theorem map_key_of_decodeFrom {record : Record α} (h : schema.decodeFrom entries = .ok record) :
    record.map FilledField.key = schema.map SchemaField.key := by
  have same : List.Forall₂ (· = ·) (schema.map SchemaField.key) (record.map FilledField.key) := by
    rw [List.forall₂_map_left_iff, List.forall₂_map_right_iff]
    refine (reads_of_decodeFrom h).imp fun field filled hr => ?_
    obtain ⟨held, -, rfl⟩ := hr
    rfl
  rw [List.forall₂_eq_eq_eq] at same
  exact same.symm

/-- The values of a record that has been decoded survive being written and read again. -/
theorem isCarried_of_decodeFrom {record : Record α} (h : schema.decodeFrom entries = .ok record)
    (faithful : ∀ field ∈ schema, field.codec.Faithful) : ∀ filled ∈ record, filled.IsCarried := by
  intro filled hm
  obtain ⟨field, hs, held, hr, rfl⟩ := exists_left_of_forall₂ (reads_of_decodeFrom h) hm
  exact hr.isCarried (faithful field hs)

/-- **What a decoded record writes.** Under a key of the schema it is the entry that was found
there, unless the field with this key does not keep it, and under another key it is nothing. -/
theorem lastWrite?_of_decodeFrom (distinct : (schema.map SchemaField.key).Nodup)
    (faithful : ∀ field ∈ schema, field.codec.Faithful) {record : Record α}
    (h : schema.decodeFrom entries = .ok record) (key : String) :
    record.lastWrite? key = (entries.get? key).filter (schema.keeps key) := by
  have keys := map_key_of_decodeFrom h
  by_cases known : key ∈ schema.map SchemaField.key
  · obtain ⟨field, hs, rfl⟩ := List.mem_map.mp known
    obtain ⟨filled, hm, held, hr, rfl⟩ := exists_right_of_forall₂ (reads_of_decodeFrom h) hs
    have written := Record.lastWrite?_of_mem (keys ▸ distinct) hm
    rw [funext (keeps_of_mem distinct hs), ← hr.put?_eq (faithful field hs)]
    exact written
  · rw [Record.lastWrite?_of_notMem (keys ▸ known), funext (keeps_of_notMem known)]
    exact (Option.filter_eq_none_iff.mpr fun _ _ => Bool.false_ne_true).symm

/-- The entries that a schema does not keep do not matter to it. -/
theorem decodeFrom_eq_of_keeps (distinct : (schema.map SchemaField.key).Nodup)
    {kept : Json.Entries}
    (found : ∀ key, kept.get? key = (entries.get? key).filter (schema.keeps key)) :
    schema.decodeFrom kept = schema.decodeFrom entries := by
  refine decodeFrom_congr fun field hs => ?_
  rw [SchemaField.decodeFrom_eq, SchemaField.decodeFrom_eq, found,
    funext (keeps_of_mem distinct hs), SchemaField.read_filter_keeps]

end Schema

/-- **Encoding a decoded record gives the canonical form of the object.** Let the keys of a schema
be distinct, and let encoding give back the JSON value of every value that has been decoded. If an
object is decoded as a record, then

* the record is encoded into an object that has, under each key of the schema, what was found there,
  except for `null` where a value may be absent, and nothing under other keys. It is the object
  restricted to the schema;
* this object is decoded as the same record;
* decoding and encoding it again changes nothing. -/
theorem toJson_of_ofJson {schema : Schema α} (distinct : (schema.map SchemaField.key).Nodup)
    (faithful : ∀ field ∈ schema, field.codec.Faithful) {entries : Json.Entries}
    {record : Record α} (h : schema.ofJson (.object entries) = .ok record) :
    ∃ written : Json.Entries, record.toJson = .ok (.object written) ∧
      (∀ key, written.get? key = (entries.get? key).filter (schema.keeps key)) ∧
      (entries.Ascending → written = schema.restrict entries) ∧
      schema.ofJson (.object written) = .ok record ∧
      (schema.ofJson (.object written)).bind Record.toJson = .ok (.object written) := by
  change schema.decodeFrom entries = .ok record at h
  obtain ⟨written, hw⟩ := Record.exists_encodeInto (Schema.isCarried_of_decodeFrom h faithful) []
  have json : record.toJson = .ok (.object written) := by rw [Record.toJson, hw]; rfl
  have found (key : String) :
      written.get? key = (entries.get? key).filter (schema.keeps key) := by
    rw [Record.get?_encodeInto hw, Schema.lastWrite?_of_decodeFrom distinct faithful h]
    exact Option.or_none
  have again : schema.ofJson (.object written) = .ok record :=
    (Schema.decodeFrom_eq_of_keeps distinct found).trans h
  refine ⟨written, json, found, fun ascending => ?_, again, by rw [again]; exact json⟩
  have ordered := Record.encodeInto_ascending hw Json.Entries.ascending_nil
  refine ordered.eq_of_get? (ascending.filter _) fun key => ?_
  rw [found, Schema.restrict, ascending.get?_filter]

/-- A number and a remark that may be `null` but must be there, and two texts that may be absent. -/
def Schema.remark : Schema Datum :=
  [⟨"id", .required, (ValueType.integer .byte).codec⟩,
   ⟨"note", .ifPresent, ValueType.text.codec⟩,
   ⟨"memo", .required, (ValueType.optional .text).codec⟩,
   ⟨"tag", .ifPresent, ValueType.text.codec⟩]

/-- The remark `null` stays, while the absent text `null` and the entry that belongs to no field do
not. -/
theorem toJson_of_ofJson_remark : ∃ record,
    Schema.remark.ofJson (.object [("extra", .bool true), ("id", .integer 7), ("memo", .null),
      ("note", .null)]) = .ok record ∧
    record.toJson = .ok (.object [("id", .integer 7), ("memo", .null)]) ∧
    Schema.remark.ofJson (.object [("id", .integer 7), ("memo", .null)]) = .ok record := by
  have faithful : ∀ field ∈ Schema.remark, field.codec.Faithful := by
    simp only [Schema.remark, List.forall_mem_cons]
    exact ⟨ValueType.codec_faithful rfl, ValueType.codec_faithful rfl,
      ValueType.codec_faithful rfl, ValueType.codec_faithful rfl, by simp⟩
  obtain ⟨record, read⟩ : ∃ record, Schema.remark.ofJson (.object [("extra", .bool true),
    ("id", .integer 7), ("memo", .null), ("note", .null)]) = .ok record := ⟨_, rfl⟩
  obtain ⟨written, json, -, restricted, again, -⟩ := toJson_of_ofJson (by decide) faithful read
  obtain rfl := restricted (by unfold Json.Entries.Ascending; decide)
  exact ⟨record, read, json, again⟩

end KeyedCoding
