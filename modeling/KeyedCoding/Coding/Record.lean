import KeyedCoding.Coding.Object
import KeyedCoding.Json.Reader

/-!
# Records

A record has a list of fields. It is encoded into an object field by field, and decoded from one
field by field, up to the first field that fails.

## Main definitions

* `Presence`: whether the value of a field may be absent.
* `SchemaField`: the key of a field, its presence and how its values are coded.
* `FilledField`: a field with its value.
* `Record.toJson`, `Record.toText`: a record as an object, and as its text.
* `Schema.ofJson`, `Schema.ofText`: the record that an object holds, and the one that a text spells.
-/

namespace KeyedCoding

/-- Whether the value of a field must be there, or may be absent. -/
inductive Presence where
  | required
  | ifPresent
  deriving DecidableEq, Repr

variable {α : Type}

/-- The key of a field, its presence and how its values are coded. -/
structure SchemaField (α : Type) where
  key : String
  presence : Presence
  codec : Codec α

/-- What a field holds. -/
inductive FieldValue (α : Type) where
  | required (value : α)
  | ifPresent (value : Option α)
  deriving DecidableEq, Repr

namespace FieldValue

/-- The presence of the field that holds a value. -/
def presence : FieldValue α → Presence
  | required _ => .required
  | ifPresent _ => .ifPresent

end FieldValue

/-- A field with its value. -/
structure FilledField (α : Type) where
  key : String
  codec : Codec α
  held : FieldValue α

namespace FilledField

/-- The field without its value. -/
def schema (field : FilledField α) : SchemaField α :=
  ⟨field.key, field.held.presence, field.codec⟩

/-- Put the value of a field under its key. -/
def encodeInto (field : FilledField α) (entries : Json.Entries) :
    Except CodingError Json.Entries :=
  match field.held with
  | .required value => entries.encode field.codec field.key value
  | .ifPresent value => entries.encodeIfPresent field.codec field.key value

end FilledField

namespace SchemaField

/-- A field that holds a value. -/
def fill (field : SchemaField α) (held : FieldValue α) : FilledField α :=
  ⟨field.key, field.codec, held⟩

/-- The value of a field in an object. -/
def decodeFrom (field : SchemaField α) (entries : Json.Entries) :
    Except CodingError (FilledField α) :=
  match field.presence with
  | .required =>
    (entries.decode field.codec field.key).map fun value => field.fill (.required value)
  | .ifPresent =>
    (entries.decodeIfPresent field.codec field.key).map fun value => field.fill (.ifPresent value)

end SchemaField

/-- The fields of a record with their values. -/
abbrev Record (α : Type) := List (FilledField α)

/-- The fields of a kind of records. -/
abbrev Schema (α : Type) := List (SchemaField α)

namespace Record

/-- The fields of a record without their values. -/
def schema (record : Record α) : Schema α := record.map FilledField.schema

/-- Put the values of a record into an object, field by field. -/
def encodeInto : Record α → Json.Entries → Except CodingError Json.Entries
  | [], entries => .ok entries
  | field :: rest, entries =>
    match field.encodeInto entries with
    | .ok entries => encodeInto rest entries
    | .error error => .error error

/-- A record as an object. -/
def toJson (record : Record α) : Except CodingError Json := (record.encodeInto []).map .object

/-- A record as the text of an object. -/
def toText (record : Record α) : Except CodingError String := record.toJson.map Json.text

end Record

namespace Schema

/-- The values of a record in an object, field by field. -/
def decodeFrom : Schema α → Json.Entries → Except CodingError (Record α)
  | [], _ => .ok []
  | field :: rest, entries =>
    match field.decodeFrom entries with
    | .ok field => (decodeFrom rest entries).map (field :: ·)
    | .error error => .error error

/-- The record that an object holds. -/
def ofJson (schema : Schema α) (json : Json) : Except CodingError (Record α) :=
  match json.entries? with
  | .ok entries => schema.decodeFrom entries
  | .error error => .error error

/-- The record that a text spells. -/
def ofText (schema : Schema α) (text : String) : Except CodingError (Record α) :=
  match Json.ofText? text with
  | some json => schema.ofJson json
  | none => .error .malformedText

end Schema

end KeyedCoding
