import KeyedCoding.Proofs.Coding.CanonicalForm
import KeyedCoding.Proofs.Json.ReadBack

/-!
# Records as text

The text of a record spells the object of the record. Reading the text is therefore the same as
reading the object, with the schema of the record or any other, and whether that succeeds or not.

The values of a codec are taken as they come, as long as they are proper. The JSON forms of the
values of all types are, as far as the JSON values among them are.

## Main definitions

* `Datum.embedded`: the JSON values that a value holds.
* `FilledField.IsWrittenProperly`: a field is written as a proper value, if at all.

## Main results

* `Datum.isProper_of_serialize`: the JSON form of a value is proper.
* `Record.isProper_of_toJson`: the object of a record is proper.
* `ofText_toText`: reading the text of a record is reading its object.
-/

namespace KeyedCoding

/-! ### The JSON forms of values -/

/-- A result that is mapped is there if it was. -/
theorem exists_of_map_eq_ok {ε β γ : Type} {f : β → γ} {result : Except ε β} {value : γ}
    (h : result.map f = .ok value) : ∃ before, result = .ok before ∧ f before = value := by
  cases result with
  | error => exact nomatch h
  | ok before => exact ⟨before, rfl, Except.ok.inj h⟩

namespace Datum

mutual

/-- The JSON values that a value holds. -/
def embedded : Datum → List Json
  | .present value => embedded value
  | .list elements => embeddedInAll elements
  | .pair first second => embedded first ++ embedded second
  | .textMap entries => embeddedInTexts entries
  | .byteMap entries => embeddedInBytes entries
  | .json value => [value]
  | _ => []

/-- The JSON values that values hold. -/
def embeddedInAll : List Datum → List Json
  | [] => []
  | value :: rest => embedded value ++ embeddedInAll rest

/-- The JSON values in a map from texts. -/
def embeddedInTexts : List (String × Datum) → List Json
  | [] => []
  | (_, value) :: rest => embedded value ++ embeddedInTexts rest

/-- The JSON values in a map from bytes. -/
def embeddedInBytes : List (Nat × Datum) → List Json
  | [] => []
  | (_, value) :: rest => embedded value ++ embeddedInBytes rest

end

theorem isProper_floatJson (value : FloatValue) : (floatJson value).IsProper := by
  cases value with
  | finite negative magnitude => exact .float negative magnitude
  | _ => exact .null

theorem isProper_integer_of_fitsJson {value : Int} (fits : fitsJson value = true) :
    (Json.integer value).IsProper := by
  simp [fitsJson, IntegerType.holds, IntegerType.least, IntegerType.greatest] at fits
  exact .integer (by omega) (by omega)

/-- An object that is made of proper values is proper. -/
theorem isProper_object_ofList {entries : List (String × Json)}
    (h : ∀ entry ∈ entries, entry.2.IsProper) :
    (Json.object (Json.Entries.ofList entries)).IsProper := by
  obtain ⟨ascending, given⟩ := Json.Entries.ofList_ascending entries
  exact .object ascending fun entry he => h entry (given entry he)

mutual

/-- The JSON form of a value is proper if the JSON values that it holds are. -/
theorem isProper_of_serialize : ∀ (value : Datum) {json : Json},
    (∀ held ∈ value.embedded, held.IsProper) → value.serialize = .ok json → json.IsProper
  | .boolean value, _, _, h => Except.ok.inj h ▸ .bool value
  | .integer value, _, _, h => by
    rw [serialize] at h
    split at h
    · next fits => exact Except.ok.inj h ▸ isProper_integer_of_fitsJson fits
    · exact nomatch h
  | .double value, _, _, h => Except.ok.inj h ▸ isProper_floatJson value
  | .single value, _, _, h => Except.ok.inj h ▸ isProper_floatJson (value.convert .double)
  | .character value, _, _, h => Except.ok.inj h ▸ .string (String.singleton value)
  | .text value, _, _, h => Except.ok.inj h ▸ .string value
  | .unit, _, _, h => Except.ok.inj h ▸ .null
  | .absent, _, _, h => Except.ok.inj h ▸ .null
  | .present value, _, held, h => isProper_of_serialize value held h
  | .list elements, _, held, h => by
    obtain ⟨elements', he, rfl⟩ := exists_of_map_eq_ok h
    exact .array (isProper_of_serializeAll elements held he)
  | .pair first second, _, held, h => by
    obtain ⟨heldFirst, heldSecond⟩ := List.forall_mem_append.mp held
    rw [serialize] at h
    split at h
    · next first' second' hf hs =>
      exact Except.ok.inj h ▸ .array (List.forall_mem_cons.mpr
        ⟨isProper_of_serialize first heldFirst hf,
          List.forall_mem_singleton.mpr (isProper_of_serialize second heldSecond hs)⟩)
    · exact nomatch h
    · exact nomatch h
  | .textMap entries, _, held, h => by
    obtain ⟨entries', he, rfl⟩ := exists_of_map_eq_ok h
    exact isProper_object_ofList (isProper_of_serializeTextEntries entries held he)
  | .byteMap entries, _, held, h => by
    obtain ⟨entries', he, rfl⟩ := exists_of_map_eq_ok h
    exact isProper_object_ofList (isProper_of_serializeByteEntries entries held he)
  | .bytePairMap [], _, _, h => Except.ok.inj h ▸ .object Json.Entries.ascending_nil nofun
  | .bytePairMap (_ :: _), _, _, h => nomatch h
  | .json value, _, held, h => Except.ok.inj h ▸ held value List.mem_cons_self

/-- The JSON forms of values are proper. -/
theorem isProper_of_serializeAll : ∀ (values : List Datum) {elements : List Json},
    (∀ held ∈ embeddedInAll values, held.IsProper) → serializeAll values = .ok elements →
      ∀ element ∈ elements, element.IsProper
  | [], _, _, h => Except.ok.inj h ▸ nofun
  | value :: rest, _, held, h => by
    obtain ⟨heldFirst, heldRest⟩ := List.forall_mem_append.mp held
    rw [serializeAll] at h
    split at h
    · next first hf =>
      obtain ⟨others, ho, rfl⟩ := exists_of_map_eq_ok h
      exact List.forall_mem_cons.mpr ⟨isProper_of_serialize value heldFirst hf,
        isProper_of_serializeAll rest heldRest ho⟩
    · exact nomatch h

/-- The JSON forms of the values of a map from texts are proper. -/
theorem isProper_of_serializeTextEntries : ∀ (values : List (String × Datum))
    {entries : List (String × Json)}, (∀ held ∈ embeddedInTexts values, held.IsProper) →
      serializeTextEntries values = .ok entries → ∀ entry ∈ entries, entry.2.IsProper
  | [], _, _, h => Except.ok.inj h ▸ nofun
  | (key, value) :: rest, _, held, h => by
    obtain ⟨heldFirst, heldRest⟩ := List.forall_mem_append.mp held
    rw [serializeTextEntries] at h
    split at h
    · next first hf =>
      obtain ⟨others, ho, rfl⟩ := exists_of_map_eq_ok h
      exact List.forall_mem_cons.mpr ⟨isProper_of_serialize value heldFirst hf,
        isProper_of_serializeTextEntries rest heldRest ho⟩
    · exact nomatch h

/-- The JSON forms of the values of a map from bytes are proper. -/
theorem isProper_of_serializeByteEntries : ∀ (values : List (Nat × Datum))
    {entries : List (String × Json)}, (∀ held ∈ embeddedInBytes values, held.IsProper) →
      serializeByteEntries values = .ok entries → ∀ entry ∈ entries, entry.2.IsProper
  | [], _, _, h => Except.ok.inj h ▸ nofun
  | (key, value) :: rest, _, held, h => by
    obtain ⟨heldFirst, heldRest⟩ := List.forall_mem_append.mp held
    rw [serializeByteEntries] at h
    split at h
    · next first hf =>
      obtain ⟨others, ho, rfl⟩ := exists_of_map_eq_ok h
      exact List.forall_mem_cons.mpr ⟨isProper_of_serialize value heldFirst hf,
        isProper_of_serializeByteEntries rest heldRest ho⟩
    · exact nomatch h

end

end Datum

/-! ### The objects of records -/

variable {α : Type}

/-- A field is written as a proper value, if at all. -/
def FilledField.IsWrittenProperly (field : FilledField α) : Prop :=
  ∀ json, field.written? = some (.ok json) → json.IsProper

/-- A field with a value of any type is written properly if the JSON values in it are proper. -/
theorem FilledField.isWrittenProperly_of_embedded {field : FilledField Datum}
    (codec : ∃ type : ValueType, field.codec = type.codec)
    (held : ∀ value, field.held.value? = some value → ∀ json ∈ value.embedded, json.IsProper) :
    field.IsWrittenProperly := by
  intro json written
  obtain ⟨type, ht⟩ := codec
  obtain ⟨value, hv, serialized⟩ := Option.map_eq_some_iff.mp written
  rw [ht] at serialized
  exact Datum.isProper_of_serialize value (held value hv) serialized

namespace Record

/-- Writing proper values into an object keeps its values proper. -/
theorem forall_isProper_of_encodeInto {record : Record α} {entries entries' : Json.Entries}
    (proper : ∀ field ∈ record, field.IsWrittenProperly)
    (before : ∀ entry ∈ entries, entry.2.IsProper) (h : record.encodeInto entries = .ok entries') :
    ∀ entry ∈ entries', entry.2.IsProper := by
  induction record generalizing entries with
  | nil => exact Except.ok.inj h ▸ before
  | cons field rest ih =>
    obtain ⟨first, later⟩ := List.forall_mem_cons.mp proper
    rw [encodeInto, FilledField.encodeInto_eq] at h
    rcases hw : field.written? with - | fault | json
    · rw [hw] at h
      exact ih later before h
    · rw [hw] at h
      cases h
    · rw [hw] at h
      refine ih later (fun entry he => ?_) h
      rcases Json.Entries.eq_or_mem_of_mem_insert he with rfl | he
      · exact first json hw
      · exact before entry he

/-- The object of a record is proper if its fields are written properly. -/
theorem isProper_of_toJson {record : Record α} {json : Json}
    (proper : ∀ field ∈ record, field.IsWrittenProperly) (h : record.toJson = .ok json) :
    json.IsProper := by
  obtain ⟨entries, he, rfl⟩ := exists_of_map_eq_ok h
  exact .object (encodeInto_ascending he Json.Entries.ascending_nil)
    (forall_isProper_of_encodeInto proper (List.forall_mem_nil _) he)

end Record

/-- **Reading the text of a record is reading its object.** Let the fields of a record be written as
values that can occur, as those of all types are, and let its object contain no number with a
fraction and at most 127 arrays and objects within each other, the object itself among them. Then
the record has a text, and with any schema the text is read as the object is: as the same record, or
with the same error. -/
theorem ofText_toText {record : Record α} (proper : ∀ field ∈ record, field.IsWrittenProperly)
    {json : Json} (written : record.toJson = .ok json) (noFloat : json.hasFloat = false)
    (shallow : json.depth ≤ 127) :
    ∃ text, record.toText = .ok text ∧
      ∀ (β : Type) (schema : Schema β), schema.ofText text = schema.ofJson json := by
  refine ⟨json.text, by rw [Record.toText, written]; rfl, fun β schema => ?_⟩
  have spelt := Json.ofText?_text (Record.isProper_of_toJson proper written) noFloat shallow
  rw [Schema.ofText, spelt]

/-- A text with a quote, a backslash, controls and a character beyond the first plane under the
empty key, the extreme whole numbers, a text that is absent, and empty containers within each
other. -/
def Record.rarities : Record Datum :=
  [⟨"", ValueType.text.codec, .required (.text "\"\\\x00\x1f\n/é😀")⟩,
   ⟨"a\nb", (ValueType.integer ⟨true, 64⟩).codec, .required (.integer (-9223372036854775808))⟩,
   ⟨"c", (ValueType.integer ⟨false, 64⟩).codec,
     .ifPresent (some (.integer 18446744073709551615))⟩,
   ⟨"d", ValueType.text.codec, .ifPresent none⟩,
   ⟨"e", ValueType.json.codec, .required (.json (.array [.object [], .array [.array [], .null]]))⟩]

/-- The object of the rarities. -/
def Json.rarities : Json :=
  .object [("", .string "\"\\\x00\x1f\n/é😀"), ("a\nb", .integer (-9223372036854775808)),
    ("c", .integer 18446744073709551615), ("e", .array [.object [], .array [.array [], .null]])]

theorem Record.isWrittenProperly_of_mem_rarities :
    ∀ field ∈ Record.rarities, field.IsWrittenProperly := by
  have codec : ∀ field ∈ Record.rarities, ∃ type : ValueType, field.codec = type.codec := by
    simp [Record.rarities]
  have nested : (Json.array [.object [], .array [.array [], .null]]).IsProper :=
    .array (List.forall_mem_cons.mpr ⟨.object Json.Entries.ascending_nil (List.forall_mem_nil _),
      List.forall_mem_singleton.mpr (.array (List.forall_mem_cons.mpr
        ⟨.array (List.forall_mem_nil _), List.forall_mem_singleton.mpr .null⟩))⟩)
  have held : ∀ field ∈ Record.rarities, ∀ value, field.held.value? = some value →
      ∀ json ∈ value.embedded, json.IsProper := by
    simp [Record.rarities, FieldValue.value?, Datum.embedded, nested]
  exact fun field hf => FilledField.isWrittenProperly_of_embedded (codec field hf) (held field hf)

/-- The text of the rarities is read with their own schema, and gives an error with another one. -/
theorem ofText_toText_rarities :
    Record.rarities.toJson = .ok .rarities ∧ Json.rarities.hasFloat = false ∧
      Json.rarities.depth = 4 ∧
      ∃ text, Record.rarities.toText = .ok text ∧
        (∃ record, Record.rarities.schema.ofText text = .ok record) ∧
        Schema.remark.ofText text = .error (.missingKey "id") := by
  have written : Record.rarities.toJson = .ok .rarities := rfl
  have noFloat : Json.rarities.hasFloat = false := rfl
  obtain ⟨text, ht, same⟩ :=
    ofText_toText Record.isWrittenProperly_of_mem_rarities written noFloat (by decide)
  exact ⟨written, noFloat, rfl, text, ht, ⟨_, (same _ _).trans rfl⟩, (same _ _).trans rfl⟩

end KeyedCoding
