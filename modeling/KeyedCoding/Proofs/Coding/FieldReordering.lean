import KeyedCoding.Proofs.Coding.CanonicalForm
import KeyedCoding.Proofs.Coding.EncoderRuns

/-!
# Fields in another order

What a record is encoded as, and what an object is decoded as, does not depend on the order of the
fields, as long as their keys are distinct. Each field then writes an entry of its own and reads no
other one. With equal keys the order would matter, since the last write under a key wins. Of several
fields that fail the first one gives the error, so that another order may report another field.

## Main definitions

* `RunsAgree`: two runs give related results, or both fail.
* `Schema.fillWith`: the record of a schema with values that are given by key.
* `Record.FailsWith`, `Schema.FailsOn`: the errors of the fields that fail.

## Main results

* `Record.toJson_perm`: a record is written as the same object in every order of its fields.
* `Schema.ofJson_perm`: the same values are read in every order of the fields.
* `coding_perm`: encoding and decoding in two orders of the fields.
-/

namespace KeyedCoding

variable {α : Type}

/-! ### Runs that agree -/

/-- Two runs agree: both give a result, and these are related, or both fail, with errors that may
differ but have something in common. -/
inductive RunsAgree {ε β γ : Type} (failure : ε → Prop) (related : β → γ → Prop) :
    Except ε β → Except ε γ → Prop
  | ok {value value'} (h : related value value') :
      RunsAgree failure related (.ok value) (.ok value')
  | error {error error'} (h : failure error) (h' : failure error') :
      RunsAgree failure related (.error error) (.error error')

namespace RunsAgree

variable {ε β γ : Type} {failure : ε → Prop} {related : β → γ → Prop} {run : Except ε β}
  {run' : Except ε γ}

/-- Runs that fail alike agree if each result of the one is the result of the other. -/
theorem of_iff {run run' : Except ε β} (same : ∀ value, run = .ok value ↔ run' = .ok value)
    (fails : ∀ error, run = .error error → failure error)
    (fails' : ∀ error, run' = .error error → failure error) :
    RunsAgree failure (· = ·) run run' := by
  cases run with
  | ok value =>
    rw [(same value).mp rfl]
    exact .ok rfl
  | error error =>
    cases run' with
    | ok value => exact nomatch (same value).mpr rfl
    | error error' => exact .error (fails error rfl) (fails' error' rfl)

/-- If the first of two runs that agree gives a result, so does the second. -/
theorem exists_of_ok {value : β} (agree : RunsAgree failure related run run')
    (h : run = .ok value) : ∃ value', run' = .ok value' ∧ related value value' := by
  cases agree with
  | ok hr => exact ⟨_, rfl, Except.ok.inj h ▸ hr⟩
  | error => exact nomatch h

theorem map {β' γ' : Type} {related' : β' → γ' → Prop} {f : β → β'} {g : γ → γ'}
    (agree : RunsAgree failure related run run')
    (h : ∀ value value', related value value' → related' (f value) (g value')) :
    RunsAgree failure related' (run.map f) (run'.map g) := by
  cases agree with
  | ok hr => exact .ok (h _ _ hr)
  | error he he' => exact .error he he'

theorem mapError {ε' : Type} {failure' : ε' → Prop} {f : ε → ε'}
    (agree : RunsAgree failure related run run') (h : ∀ error, failure error → failure' (f error)) :
    RunsAgree failure' related (run.mapError f) (run'.mapError f) := by
  cases agree with
  | ok hr => exact .ok hr
  | error he he' => exact .error (h _ he) (h _ he')

end RunsAgree

/-! ### Writing in another order -/

namespace Record

variable {record record' : Record α}

/-- With distinct keys it does not depend on the order of the fields what is left under a key. -/
theorem lastWrite?_perm (reordered : record.Perm record')
    (distinct : (record.map FilledField.key).Nodup) (key : String) :
    record.lastWrite? key = record'.lastWrite? key := by
  have keys : (record.map FilledField.key).Perm (record'.map FilledField.key) := reordered.map _
  by_cases known : key ∈ record.map FilledField.key
  · obtain ⟨field, hm, rfl⟩ := List.mem_map.mp known
    rw [lastWrite?_of_mem distinct hm,
      lastWrite?_of_mem (keys.nodup distinct) (reordered.subset hm)]
  · rw [lastWrite?_of_notMem known, lastWrite?_of_notMem (known ∘ keys.mem_iff.mpr)]

/-- With distinct keys a record that can be written is written as the same object in every order of
its fields. -/
private theorem encodeInto_of_perm (reordered : record.Perm record')
    (distinct : (record.map FilledField.key).Nodup) {entries written : Json.Entries}
    (ascending : entries.Ascending) (h : record.encodeInto entries = .ok written) :
    record'.encodeInto entries = .ok written := by
  have serializes : ∀ field ∈ record', field.Serializes := fun field hm =>
    exists_encodeInto_iff.mp ⟨written, h⟩ field (reordered.mem_iff.mpr hm)
  obtain ⟨written', h'⟩ : ∃ written', record'.encodeInto entries = .ok written' :=
    exists_encodeInto_iff.mpr serializes
  have same : written = written' := by
    refine (encodeInto_ascending h ascending).eq_of_get? (encodeInto_ascending h' ascending) ?_
    intro key
    rw [get?_encodeInto h, get?_encodeInto h', lastWrite?_perm reordered distinct]
  rw [h', same]

/-- **The order of the fields does not matter for what is written.** -/
theorem encodeInto_perm (reordered : record.Perm record')
    (distinct : (record.map FilledField.key).Nodup) {entries : Json.Entries}
    (ascending : entries.Ascending) (written : Json.Entries) :
    record.encodeInto entries = .ok written ↔ record'.encodeInto entries = .ok written :=
  ⟨encodeInto_of_perm reordered distinct ascending,
    encodeInto_of_perm reordered.symm ((reordered.map _).nodup distinct) ascending⟩

/-- An error is that of a field whose value has no JSON form. -/
def FailsWith (record : Record α) (error : CodingError) : Prop :=
  ∃ field ∈ record, ∃ fault, field.FailsWith fault ∧ error = .encode field.key fault

theorem failsWith_of_encodeInto {entries : Json.Entries} {error : CodingError}
    (h : record.encodeInto entries = .error error) : record.FailsWith error := by
  obtain ⟨earlier, field, later, fault, rfl, -, fails, rfl⟩ := encodeInto_eq_error_iff.mp h
  exact ⟨field, by simp, fault, fails, rfl⟩

/-- A record is encoded as the same object in every order of its fields, or in none. -/
theorem toJson_perm (reordered : record.Perm record')
    (distinct : (record.map FilledField.key).Nodup) :
    RunsAgree record.FailsWith (· = ·) record.toJson record'.toJson := by
  have same := encodeInto_perm reordered distinct Json.Entries.ascending_nil
  have fails' (error : CodingError) (h : record'.encodeInto [] = .error error) :
      record.FailsWith error := by
    obtain ⟨field, hm, fails⟩ := failsWith_of_encodeInto h
    exact ⟨field, reordered.mem_iff.mpr hm, fails⟩
  exact (RunsAgree.of_iff same (fun _ => failsWith_of_encodeInto) fails').map
    fun _ _ => congrArg Json.object

end Record

/-! ### Reading in another order -/

namespace Schema

variable {schema schema' : Schema α} {entries : Json.Entries} {values : String → FieldValue α}

/-- The record of a schema with values that are given by key. -/
def fillWith (schema : Schema α) (values : String → FieldValue α) : Record α :=
  schema.map fun field => field.fill (values field.key)

theorem map_key_fillWith (schema : Schema α) (values : String → FieldValue α) :
    (schema.fillWith values).map FilledField.key = schema.map SchemaField.key := by
  rw [fillWith, List.map_map]
  rfl

/-- Values are read from an object if each field reads its own. -/
theorem decodeFrom_eq_fillWith_iff : schema.decodeFrom entries = .ok (schema.fillWith values) ↔
    ∀ field ∈ schema, field.Reads entries (values field.key) := by
  rw [decodeFrom_eq_ok_iff, fillWith, List.forall₂_map_right_iff, List.forall₂_same]
  refine forall₂_congr fun field _ => ?_
  rw [SchemaField.decodeFrom_eq_ok_iff_reads]
  constructor
  · rintro ⟨held, reads, same⟩
    obtain rfl : values field.key = held := congrArg FilledField.held same
    exact reads
  · exact fun reads => ⟨_, reads, rfl⟩

/-- With distinct keys the values that the fields read can be told apart by key. -/
theorem exists_values (distinct : (schema.map SchemaField.key).Nodup)
    (met : ∀ field ∈ schema, field.IsMet entries) :
    ∃ values : String → FieldValue α, ∀ field ∈ schema, field.Reads entries (values field.key) := by
  induction schema with
  | nil => exact ⟨fun _ => .ifPresent none, by simp⟩
  | cons first rest ih =>
    obtain ⟨new, distinct⟩ := List.nodup_cons.mp distinct
    obtain ⟨metFirst, met⟩ := List.forall_mem_cons.mp met
    obtain ⟨held, reads⟩ := SchemaField.isMet_iff_exists_reads.mp metFirst
    obtain ⟨values, readsRest⟩ := ih distinct met
    refine ⟨Function.update values first.key held, List.forall_mem_cons.mpr ⟨?_, ?_⟩⟩
    · rwa [Function.update_self]
    · intro field hm
      have other : field.key ≠ first.key := fun same => new (same ▸ List.mem_map_of_mem hm)
      rw [Function.update_of_ne other]
      exact readsRest field hm

/-- An error is that of a field that cannot be read from an object, or tells that a JSON value is no
object. -/
def FailsOn (schema : Schema α) (json : Json) (error : CodingError) : Prop :=
  match json.entries? with
  | .ok entries => ∃ field ∈ schema, field.Fails entries error
  | .error noObject => error = noObject

theorem exists_fails_of_decodeFrom {error : CodingError}
    (h : schema.decodeFrom entries = .error error) :
    ∃ field ∈ schema, field.Fails entries error := by
  obtain ⟨before, field, after, rfl, -, fails⟩ := decodeFrom_eq_error_iff.mp h
  exact ⟨field, by simp, fails⟩

/-- **The order of the fields does not matter for what is read.** -/
theorem decodeFrom_perm (reordered : schema.Perm schema')
    (distinct : (schema.map SchemaField.key).Nodup) (entries : Json.Entries) :
    RunsAgree (fun error => ∃ field ∈ schema, field.Fails entries error)
      (fun record record' =>
        ∃ values, record = schema.fillWith values ∧ record' = schema'.fillWith values)
      (schema.decodeFrom entries) (schema'.decodeFrom entries) := by
  cases h : schema.decodeFrom entries with
  | ok record =>
    obtain ⟨values, reads⟩ := exists_values distinct (exists_decodeFrom_iff.mp ⟨record, h⟩)
    have filled : schema.decodeFrom entries = .ok (schema.fillWith values) :=
      decodeFrom_eq_fillWith_iff.mpr reads
    have filled' : schema'.decodeFrom entries = .ok (schema'.fillWith values) :=
      decodeFrom_eq_fillWith_iff.mpr fun field hm => reads field (reordered.mem_iff.mpr hm)
    rw [filled']
    exact .ok ⟨values, Except.ok.inj (h.symm.trans filled), rfl⟩
  | error error =>
    cases h' : schema'.decodeFrom entries with
    | ok record =>
      have met := exists_decodeFrom_iff.mp ⟨record, h'⟩
      obtain ⟨read, hr⟩ := exists_decodeFrom_iff.mpr fun field hm => met field (reordered.subset hm)
      exact nomatch h.symm.trans hr
    | error error' =>
      obtain ⟨field, hm, fails⟩ := exists_fails_of_decodeFrom h'
      exact .error (exists_fails_of_decodeFrom h) ⟨field, reordered.mem_iff.mpr hm, fails⟩

/-- A JSON value is decoded as the same values in every order of the fields, or in none. -/
theorem ofJson_perm (reordered : schema.Perm schema')
    (distinct : (schema.map SchemaField.key).Nodup) (json : Json) :
    RunsAgree (schema.FailsOn json) (fun record record' =>
        ∃ values, record = schema.fillWith values ∧ record' = schema'.fillWith values)
      (schema.ofJson json) (schema'.ofJson json) := by
  cases json with
  | object entries => exact decodeFrom_perm reordered distinct entries
  | _ => exact .error rfl rfl

end Schema

/-- **The order of the fields does not matter for the wire format.** Let two schemas with distinct
keys have the same fields in any two orders.

* Values that are given to the fields are encoded as the same object under both schemas, or under
  none.
* Every JSON value is decoded under both schemas, with the same value for each field, or under none.

If there is no result, only the field may differ that gives the error. -/
theorem coding_perm {schema schema' : Schema α} (reordered : schema.Perm schema')
    (distinct : (schema.map SchemaField.key).Nodup) :
    (∀ values, RunsAgree (schema.fillWith values).FailsWith (· = ·)
        (schema.fillWith values).toJson (schema'.fillWith values).toJson) ∧
      ∀ json, RunsAgree (schema.FailsOn json) (fun record record' =>
          ∃ values, record = schema.fillWith values ∧ record' = schema'.fillWith values)
        (schema.ofJson json) (schema'.ofJson json) := by
  refine ⟨fun values => ?_, Schema.ofJson_perm reordered distinct⟩
  have keys : ((schema.fillWith values).map FilledField.key).Nodup := by
    rwa [Schema.map_key_fillWith]
  exact Record.toJson_perm (reordered.map _) keys

/-- The fields of a remark from the last one to the first. -/
def Schema.remarkReversed : Schema Datum := remark.reverse

/-- What the fields of a remark hold: a number, no note, a memo that is nothing and a tag. -/
def Schema.remarkValues : String → FieldValue Datum
  | "id" => .required (.integer 7)
  | "memo" => .required .absent
  | "tag" => .ifPresent (some (.text "new"))
  | _ => .ifPresent none

/-- A remark is written as the same object from its last field to its first, and the same values are
read from an object with an entry that is no field. -/
theorem coding_perm_remark :
    Schema.remark.Perm Schema.remarkReversed ∧ (Schema.remark.map SchemaField.key).Nodup ∧
      (Schema.remarkReversed.fillWith Schema.remarkValues).toJson =
        .ok (.object [("id", .integer 7), ("memo", .null), ("tag", .string "new")]) ∧
      ∃ values,
        Schema.remark.ofJson (.object [("extra", .null), ("id", .integer 7), ("memo", .null)]) =
          .ok (Schema.remark.fillWith values) ∧
        Schema.remarkReversed.ofJson
            (.object [("extra", .null), ("id", .integer 7), ("memo", .null)]) =
          .ok (Schema.remarkReversed.fillWith values) := by
  have reordered : Schema.remark.Perm Schema.remarkReversed := (List.reverse_perm _).symm
  have distinct : (Schema.remark.map SchemaField.key).Nodup := by decide
  obtain ⟨writes, reads⟩ := coding_perm reordered distinct
  refine ⟨reordered, distinct, ?_, ?_⟩
  · have written : (Schema.remark.fillWith Schema.remarkValues).toJson =
        .ok (.object [("id", .integer 7), ("memo", .null), ("tag", .string "new")]) := rfl
    obtain ⟨json, written', rfl⟩ := (writes Schema.remarkValues).exists_of_ok written
    exact written'
  · obtain ⟨record, read⟩ : ∃ record, Schema.remark.ofJson (.object [("extra", .null),
      ("id", .integer 7), ("memo", .null)]) = .ok record := ⟨_, rfl⟩
    obtain ⟨record', read', values, rfl, rfl⟩ := (reads _).exists_of_ok read
    exact ⟨values, read, read'⟩

end KeyedCoding
