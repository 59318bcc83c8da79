import KeyedCoding.Json.Writer
import KeyedCoding.Number.IntegerType
import KeyedCoding.Settings.Basic
import KeyedCoding.Toml.Reader

/-!
# Settings in documents

Settings are read from a document, in which each of them is a text. Those that a document leaves
out keep their standard value. Keys are looked at in ascending order.

## Main definitions

* `DocumentError`: why a document or a file gives no settings.
* `Settings.readDocument`: the settings of a document before they are checked.
* `Settings.ofDocument`: the settings of a document, if they can be used.
* `Settings.ofFile`: the settings of a file.
-/

namespace KeyedCoding

/-- Why a document or a file gives no settings that can be used. -/
inductive DocumentError where
  | malformed
  | unknownKey (key : String)
  /-- A value is no text. -/
  | notText (description : String)
  /-- A number is beyond all ranges. -/
  | beyondRange
  | unreadable (path : String) (cause : String)
  | invalid (error : SettingsError)
  deriving DecidableEq, Repr

namespace DocumentError

/-- The settings as an error lists them. -/
def expectedKeys : String :=
  ", ".intercalate (SettingName.all.map fun setting => s!"`{setting.text}`")

/-- How an error is told. What is wrong with a malformed document is not told. -/
def message : DocumentError → Option String
  | malformed => none
  | unknownKey key => some s!"unknown field `{key}`, expected one of {expectedKeys}"
  | notText description => some s!"invalid type: {description}, expected a string"
  | beyondRange => none
  | unreadable path cause => some s!"failed to read config file '{path}': {cause}"
  | invalid error => some error.message

end DocumentError

namespace Toml

/-- A number with a fraction: all its digits in their places, and always a point. -/
def floatText : FloatValue → String
  | .finite negative magnitude =>
    let decimal := magnitude.shortest .double
    let unsigned := decimal.positional ++ if decimal.exponent < 0 then [] else ['.', '0']
    String.ofList (if negative then '-' :: unsigned else unsigned)
  | .infinite negative => if negative then "-inf" else "inf"
  | .notANumber => "NaN"

namespace Value

/-- A whole number. Beyond 64 bits its width is told, and beyond 128 bits there is nothing. -/
def describeInteger (value : Int) : Option String :=
  let text := s!"integer `{value}`"
  let fits (signed : Bool) (bits : Nat) : Bool := IntegerType.holds ⟨signed, bits⟩ value
  if fits true 64 || fits false 64 then some text
  else if fits true 128 then some (text ++ " as i128")
  else if fits false 128 then some (text ++ " as u128")
  else none

/-- How an error describes a value that is no text, unless it is a number beyond all ranges. -/
def describe : Value → Option String
  | string value => some ("string " ++ Text.quote value)
  | integer value => describeInteger value
  | float value => value.map fun value => s!"floating point `{floatText value}`"
  | boolean value => some s!"boolean `{value}`"
  | dateTime => some "map"
  | array _ => some "sequence"
  | table .. => some "map"
  | tables .. => some "sequence"

end Value

end Toml

namespace Settings

/-- Change a setting. -/
def set (settings : Settings) (value : String) : SettingName → Settings
  | .keyMarker => { settings with keyMarker := value }
  | .keysIdent => { settings with keysIdent := some value }
  | .constructor => { settings with constructor := value }
  | .setterPrefix => { settings with setterPrefix := value }
  | .runtimePath => { settings with runtimePath := value }

/-- Change settings by the entries of a document, in the order given. -/
def setAll : Settings → Toml.Table → Except DocumentError Settings
  | settings, [] => .ok settings
  | settings, (key, value) :: rest =>
    match SettingName.ofText? key with
    | none => .error (.unknownKey key)
    | some name =>
      match value with
      | .string value => setAll (settings.set value name) rest
      | value =>
        match value.describe with
        | some description => .error (.notText description)
        | none => .error .beyondRange

/-- The settings of a document, before they are checked. -/
def readDocument (source : String) : Except DocumentError Settings :=
  match Toml.Table.ofText? source with
  | some entries => setAll standard (entries.mergeSort fun a b => !decide (b.1 < a.1))
  | none => .error .malformed

/-- The settings of a document, after they have been checked. -/
def ofDocument (source : String) : Except DocumentError Settings := do
  let settings ← readDocument source
  let _ ← settings.resolve.mapError .invalid
  return settings

/-- What there is to be read under the path of a file. -/
inductive FileContent where
  | missing
  | text (source : String)
  /-- The bytes are no text. -/
  | notText

/-- The settings of a file, given what there is under its path. -/
def ofFile (path : String) : FileContent → Except DocumentError Settings
  | .missing => .error (.unreadable path "No such file or directory (os error 2)")
  | .notText => .error (.unreadable path "stream did not contain valid UTF-8")
  | .text source => ofDocument source

end Settings

end KeyedCoding
