import KeyedCoding.Proofs.Coding.FieldAccess
import Mathlib.Data.List.Forall2

/-!
# Writing and reading records

A record is written field by field, so that under each key the last field that is not absent wins.
It is read field by field as well, and all fields look at the same object. With distinct keys
every field finds what it has left itself.

## Main definitions

* `Record.lastWrite?`: what a record leaves under a key.

## Main results

* `Record.get?_encodeInto`: the object after a record has been written.
* `Schema.decodeFrom_eq_ok_iff`: the record that is read from an object.
* `Record.ofJson_toJson`: a record that is written is read back.
-/

namespace KeyedCoding

variable {α : Type}

namespace FilledField

/-- A field that is written leaves its entry under its key, and nothing else. -/
theorem get?_encodeInto {field : FilledField α} {entries entries' : Json.Entries}
    (h : field.encodeInto entries = .ok entries') (key : String) :
    entries'.get? key =
      (if field.key = key then field.put? else none).or (entries.get? key) := by
  rw [encodeInto_eq] at h
  cases hw : field.written? with
  | none =>
    simp only [hw, Except.ok.injEq] at h
    simp [put?, hw, h]
  | some result =>
    cases result with
    | error fault => simp [hw] at h
    | ok json =>
      simp only [hw, Except.ok.injEq] at h
      rw [← h, Json.Entries.get?_insert]
      by_cases hk : field.key = key <;> simp [put?, hw, hk, Except.toOption]

/-- Writing a value that survives does not fail. -/
theorem IsCarried.exists_encodeInto {field : FilledField α} (h : field.IsCarried)
    (entries : Json.Entries) : ∃ entries', field.encodeInto entries = .ok entries' := by
  rw [encodeInto_eq]
  rcases h.written? with hw | ⟨json, hw⟩
  · exact ⟨entries, by simp [hw]⟩
  · exact ⟨entries.insert field.key json, by simp [hw]⟩

end FilledField

namespace Record

/-- What a record leaves under a key: the entry of the last field with this key that is not
absent. -/
def lastWrite? (key : String) : Record α → Option Json
  | [] => none
  | field :: rest =>
    (lastWrite? key rest).or (if field.key = key then field.put? else none)

/-- **The object after a record has been written.** -/
theorem get?_encodeInto {record : Record α} {entries entries' : Json.Entries}
    (h : record.encodeInto entries = .ok entries') (key : String) :
    entries'.get? key = (record.lastWrite? key).or (entries.get? key) := by
  induction record generalizing entries with
  | nil =>
    simp only [encodeInto, Except.ok.injEq] at h
    simp [lastWrite?, h]
  | cons field rest ih =>
    simp only [encodeInto] at h
    cases hf : field.encodeInto entries with
    | error error => simp [hf] at h
    | ok between =>
      simp only [hf] at h
      rw [ih h, FilledField.get?_encodeInto hf, lastWrite?, Option.or_assoc]

theorem lastWrite?_of_notMem {record : Record α} {key : String}
    (h : key ∉ record.map FilledField.key) : record.lastWrite? key = none := by
  induction record with
  | nil => rfl
  | cons field rest ih =>
    simp only [List.map_cons, List.mem_cons, not_or] at h
    rw [lastWrite?, ih h.2, if_neg (Ne.symm h.1), Option.or_none]

/-- With distinct keys every field leaves its own entry. -/
theorem lastWrite?_of_mem {record : Record α} (distinct : (record.map FilledField.key).Nodup)
    {field : FilledField α} (h : field ∈ record) :
    record.lastWrite? field.key = field.put? := by
  induction record with
  | nil => simp at h
  | cons first rest ih =>
    rw [List.map_cons, List.nodup_cons] at distinct
    rcases List.mem_cons.mp h with rfl | hr
    · rw [lastWrite?, lastWrite?_of_notMem distinct.1, if_pos rfl, Option.none_or]
    · have hk : first.key ≠ field.key := fun hk =>
        distinct.1 (hk ▸ List.mem_map_of_mem hr)
      rw [lastWrite?, ih distinct.2 hr, if_neg hk, Option.or_none]

/-- Writing values that survive does not fail. -/
theorem exists_encodeInto {record : Record α} (h : ∀ field ∈ record, field.IsCarried)
    (entries : Json.Entries) : ∃ entries', record.encodeInto entries = .ok entries' := by
  induction record generalizing entries with
  | nil => exact ⟨entries, rfl⟩
  | cons field rest ih =>
    obtain ⟨between, hf⟩ := (h field List.mem_cons_self).exists_encodeInto entries
    obtain ⟨entries', hr⟩ := ih (fun field hm => h field (List.mem_cons_of_mem _ hm)) between
    exact ⟨entries', by simp only [encodeInto, hf, hr]⟩

end Record

namespace Schema

theorem decodeFrom_cons_eq_ok_iff {field : SchemaField α} {rest : Schema α}
    {entries : Json.Entries} {record : Record α} :
    decodeFrom (field :: rest) entries = .ok record ↔ ∃ filled others,
      field.decodeFrom entries = .ok filled ∧ decodeFrom rest entries = .ok others ∧
        record = filled :: others := by
  simp only [decodeFrom]
  cases field.decodeFrom entries with
  | error error => simp
  | ok filled =>
    cases decodeFrom rest entries with
    | error error => simp [Except.map]
    | ok others => simp [Except.map, eq_comm]

/-- **The record that is read from an object.** Each of its fields is the one that is read for the
field of the schema at its place. -/
theorem decodeFrom_eq_ok_iff {schema : Schema α} {entries : Json.Entries} {record : Record α} :
    schema.decodeFrom entries = .ok record ↔
      List.Forall₂ (fun field filled => field.decodeFrom entries = .ok filled) schema record := by
  induction schema generalizing record with
  | nil =>
    simp only [decodeFrom, List.forall₂_nil_left_iff, Except.ok.injEq]
    exact eq_comm
  | cons field rest ih =>
    rw [decodeFrom_cons_eq_ok_iff, List.forall₂_cons_left_iff]
    simp only [ih]

end Schema

namespace Record

/-- **A record that is written is read back.** If the keys of a record are distinct and its values
survive, the object into which it is written is read as that record, except for the optional
values that are written as `null`. -/
theorem ofJson_toJson {record : Record α} (distinct : (record.map FilledField.key).Nodup)
    (carried : ∀ field ∈ record, field.IsCarried) :
    ∃ json, record.toJson = .ok json ∧
      record.schema.ofJson json = .ok (record.map FilledField.reread) := by
  obtain ⟨entries, hw⟩ := exists_encodeInto carried []
  refine ⟨.object entries, by rw [toJson, hw]; rfl, ?_⟩
  change record.schema.decodeFrom entries = _
  rw [Schema.decodeFrom_eq_ok_iff, schema, List.forall₂_map_left_iff, List.forall₂_map_right_iff,
    List.forall₂_same]
  intro field hm
  have found : entries.get? field.key = field.put? := by
    rw [get?_encodeInto hw, lastWrite?_of_mem distinct hm]
    exact Option.or_none
  rw [SchemaField.decodeFrom_eq]
  change (field.schema.read (entries.get? field.key)).map field.schema.fill = _
  rw [found, FilledField.read_put (carried field hm)]
  rfl

end Record

end KeyedCoding
