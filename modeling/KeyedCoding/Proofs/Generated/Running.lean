import KeyedCoding.Proofs.Generated.Fields
import Mathlib.Data.List.Forall2

/-!
# Running generated code

The function that encodes an object runs its statements one after the other: each looks its key up
among the generated keys and puts the value of its field under it. The function that decodes an
object reads the value of each field in turn.

## Main definitions

* `Codecs`: how the values of each type are coded.
* `Slot`, `ClassObject`: the fields of an object with what they hold.
* `EncodeBody.toJson`, `DecodeBody.ofJson`: running the generated functions.

## Main results

* `EncodeBody.toJson_eq`, `DecodeBody.ofJson_eq`: a run writes or reads a record.
-/

namespace KeyedCoding

variable {α : Type}

/-! ### Running the statements -/

/-- How the values of each type are coded. -/
abbrev Codecs (α : Type) := Ty → Codec α

/-- What a field of an object holds, with the type that the class gives to the field. -/
structure Slot (α : Type) where
  ty : Ty
  held : FieldValue α

/-- The fields of an object by their identifiers. -/
abbrev ClassObject (α : Type) := Ident → Option (Slot α)

/-- Why generated code gives no result. -/
inductive RunFault where
  /-- A statement names a key or a field that is not there, or one of another type. Such code does
  not even compile. -/
  | illTyped
  | coding (error : CodingError)

namespace EncodeBody

/-- What a statement writes: the value of its field under its key, in the form that the type of the
field has. A value is written if present only in a field of an optional type. -/
def filled? (body : EncodeBody) (mapping : KeyMapping) (codecs : Codecs α)
    (object : ClassObject α) (statement : EncodeStatement) : Option (FilledField α) :=
  match mapping.keyBelow? body.keys statement.field, object statement.field with
  | some key, some slot =>
    match statement.presence, slot.held with
    | .required, .required value => some ⟨key, codecs slot.ty, .required value⟩
    | .ifPresent, .ifPresent value =>
      slot.ty.optionInner.map fun inner => ⟨key, codecs inner, .ifPresent value⟩
    | _, _ => none
  | _, _ => none

/-- Run a statement. -/
def step (body : EncodeBody) (mapping : KeyMapping) (codecs : Codecs α) (object : ClassObject α)
    (entries : Json.Entries) (statement : EncodeStatement) : Except RunFault Json.Entries :=
  match body.filled? mapping codecs object statement with
  | some field => (field.encodeInto entries).mapError .coding
  | none => .error .illTyped

/-- Run the function that encodes an object, with an encoder that is empty. -/
def toJson (body : EncodeBody) (mapping : KeyMapping) (codecs : Codecs α)
    (object : ClassObject α) : Except RunFault Json :=
  (body.statements.foldlM (body.step mapping codecs object) []).map .object

end EncodeBody

namespace DecodeBody

/-- What a statement reads: a value of its type under its key. -/
def schema? (body : DecodeBody) (mapping : KeyMapping) (codecs : Codecs α)
    (statement : DecodeStatement) : Option (SchemaField α) :=
  (mapping.keyBelow? body.keys statement.field).map fun key =>
    ⟨key, statement.presence, codecs statement.ty⟩

/-- Run a statement: the field that gets a value, and the value. -/
def step (body : DecodeBody) (mapping : KeyMapping) (codecs : Codecs α) (entries : Json.Entries)
    (statement : DecodeStatement) : Except RunFault (Ident × FieldValue α) :=
  match body.schema? mapping codecs statement with
  | some field =>
    ((field.decodeFrom entries).mapError .coding).map fun filled => (statement.field, filled.held)
  | none => .error .illTyped

/-- Run the function that decodes an object. -/
def ofJson (body : DecodeBody) (mapping : KeyMapping) (codecs : Codecs α) (json : Json) :
    Except RunFault (List (Ident × FieldValue α)) :=
  match json.entries? with
  | .ok entries => body.statements.mapM (body.step mapping codecs entries)
  | .error error => .error (.coding error)

end DecodeBody

/-! ### Runs as records -/

section Records

variable {mapping : KeyMapping} {codecs : Codecs α} {object : ClassObject α}

private theorem EncodeBody.foldlM_step {body : EncodeBody} {statements : List EncodeStatement}
    {record : Record α}
    (h : List.Forall₂ (fun statement field =>
      body.filled? mapping codecs object statement = some field) statements record)
    (entries : Json.Entries) :
    statements.foldlM (body.step mapping codecs object) entries =
      (record.encodeInto entries).mapError .coding := by
  induction h generalizing entries with
  | nil => rfl
  | @cons statement field statements record hs _ ih =>
    rw [List.foldlM_cons, step, hs, Record.encodeInto]
    cases hf : field.encodeInto entries with
    | error error => simp only [hf]; rfl
    | ok between => simp only [hf]; exact ih between

/-- Running the function that encodes an object writes the record of what its statements write. -/
theorem EncodeBody.toJson_eq {body : EncodeBody} {record : Record α}
    (h : List.Forall₂ (fun statement field =>
      body.filled? mapping codecs object statement = some field) body.statements record) :
    body.toJson mapping codecs object = record.toJson.mapError .coding := by
  rw [toJson, foldlM_step h, Record.toJson]
  cases record.encodeInto [] <;> rfl

private theorem DecodeBody.mapM_step {body : DecodeBody} {statements : List DecodeStatement}
    {schema : Schema α}
    (h : List.Forall₂ (fun statement field => body.schema? mapping codecs statement = some field)
      statements schema) (entries : Json.Entries) :
    statements.mapM (body.step mapping codecs entries) =
      ((schema.decodeFrom entries).mapError .coding).map
        (List.zipWith (fun statement filled => (statement.field, filled.held)) statements) := by
  induction h with
  | nil => rfl
  | @cons statement field statements schema hs _ ih =>
    rw [List.mapM_cons, step, hs, ih, Schema.decodeFrom]
    cases hf : field.decodeFrom entries with
    | error error => simp only [hf]; rfl
    | ok filled => simp only [hf]; cases Schema.decodeFrom schema entries <;> rfl

/-- Running the function that decodes an object reads the record of what its statements read. -/
theorem DecodeBody.ofJson_eq {body : DecodeBody} {schema : Schema α}
    (h : List.Forall₂ (fun statement field => body.schema? mapping codecs statement = some field)
      body.statements schema) (json : Json) :
    body.ofJson mapping codecs json =
      ((schema.ofJson json).mapError .coding).map
        (List.zipWith (fun statement filled => (statement.field, filled.held))
          body.statements) := by
  rw [ofJson, Schema.ofJson]
  cases json.entries? with
  | error error => rfl
  | ok entries => exact mapM_step h entries

end Records

end KeyedCoding
