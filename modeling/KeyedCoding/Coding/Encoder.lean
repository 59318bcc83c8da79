import KeyedCoding.Coding.Record

/-!
# Encoders

An encoder holds the object that it writes. A call puts a value under a key, or gives an error and
leaves the object to the calls after it.

## Main definitions

* `Encoder`: an action on the object that is being written.
* `Encoder.encode`, `Encoder.encodeIfPresent`: the calls.
* `FilledField.write`, `Record.write`: the call for a field, and those for a record.
* `Encoder.writeAll`: calls one after the other, whether or not they fail.
-/

namespace KeyedCoding

variable {α : Type}

/-- An action on the object that is being written. If it fails, the object is what it was when the
action failed. -/
abbrev Encoder (β : Type) := ExceptT CodingError (StateM Json.Entries) β

/-- Put a value under a key. -/
def Encoder.encode (codec : Codec α) (key : String) (value : α) : Encoder Unit :=
  match codec.serialize value with
  | .ok json => modify (Json.Entries.insert key json)
  | .error fault => throw (.encode key fault)

/-- Put a value under a key if there is one. -/
def Encoder.encodeIfPresent (codec : Codec α) (key : String) (value : Option α) : Encoder Unit :=
  match value with
  | some value => encode codec key value
  | none => pure ()

/-- The call for a field. -/
def FilledField.write (field : FilledField α) : Encoder Unit :=
  match field.held with
  | .required value => .encode field.codec field.key value
  | .ifPresent value => .encodeIfPresent field.codec field.key value

/-- The calls for the fields of a record, up to the first one that fails. -/
def Record.write (record : Record α) : Encoder Unit := record.forM FilledField.write

/-- Calls one after the other, with what each of them gives. -/
def Encoder.writeAll (calls : List (FilledField α)) :
    StateM Json.Entries (List (Except CodingError Unit)) :=
  calls.mapM fun call => call.write.run

end KeyedCoding
