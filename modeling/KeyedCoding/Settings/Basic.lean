import KeyedCoding.Grammar.Source

/-!
# Settings

The settings of a generator give the names in generated code. They are texts, and are checked and
read as source before they are used.

## Main definitions

* `Settings`: the settings as they are given.
* `SettingsError`: why settings cannot be used.
* `ResolvedSettings`: settings that can be used.
* `Settings.resolve`: the settings after they have been checked.
-/

namespace KeyedCoding

/-- The settings of a generator. -/
structure Settings where
  /-- The name of the markers that give a field another key. -/
  keyMarker : String
  /-- The identifier of the key enumeration, unless it follows from that of the class. -/
  keysIdent : Option String
  /-- The name of the function that makes an object. -/
  constructor : String
  /-- What stands in front of the name of a field in the name of its setter. -/
  setterPrefix : String
  /-- The path of the library that generated code relies on. -/
  runtimePath : String
  deriving DecidableEq, Repr

/-- The settings that hold when none are given. -/
def Settings.standard : Settings :=
  ⟨"codable_key", none, "new", "with_", "::classcodable_core"⟩

/-- The names of settings. -/
inductive SettingName where
  | keyMarker
  | keysIdent
  | constructor
  | setterPrefix
  | runtimePath
  deriving DecidableEq, Repr

namespace SettingName

/-- A setting as it is named in documents. -/
def text : SettingName → String
  | keyMarker => "key_marker"
  | keysIdent => "keys_ident"
  | constructor => "constructor"
  | setterPrefix => "setter_prefix"
  | runtimePath => "runtime_path"

/-- All settings. -/
def all : List SettingName := [keyMarker, keysIdent, constructor, setterPrefix, runtimePath]

/-- The setting that a text names. -/
def ofText? (name : String) : Option SettingName := all.find? (·.text == name)

end SettingName

/-- Why settings cannot be used. -/
inductive SettingsError where
  | empty (setting : SettingName)
  | invalidIdent (setting : SettingName) (value : String)
  | invalidPath (setting : SettingName) (value : String)
  /-- A setter could have the name of the function that makes an object. -/
  | setterClash (constructor setterPrefix : String)
  deriving DecidableEq, Repr

namespace SettingsError

/-- How an error is told. -/
def message : SettingsError → String
  | empty setting => s!"config field '{setting.text}' must not be empty"
  | invalidIdent setting value =>
    s!"config field '{setting.text}' is not a valid identifier: '{value}'"
  | invalidPath setting value => s!"config field '{setting.text}' is not a valid path: '{value}'"
  | setterClash constructor setterPrefix =>
    s!"constructor '{constructor}' could clash with setters prefixed '{setterPrefix}'"

end SettingsError

/-- Settings that have been checked. -/
structure ResolvedSettings where
  keyMarker : String
  keysIdent : Option Ident
  constructor : Ident
  setterPrefix : String
  runtime : Path

/-- What the standard settings are accepted as. -/
def ResolvedSettings.standard : ResolvedSettings :=
  ⟨"codable_key", none, ⟨false, "new", by decide⟩, "with_", ⟨true, [.plain "classcodable_core"]⟩⟩

namespace Settings

/-- The identifier that a setting spells. -/
def readIdent (setting : SettingName) (value : String) : Except SettingsError Ident :=
  match Ident.ofText? value with
  | some ident => .ok ident
  | none => .error (.invalidIdent setting value)

/-- Whether one text starts with another. -/
def startsWith (text start : String) : Bool := start.toList.isPrefixOf text.toList

/-- The words that cannot be raw identifiers although they look like identifiers. -/
def neverRaw : List String := ["Self", "crate", "self", "super"]

/-- Whether a text can stand in front of any name to make an identifier, raw if need be: it starts
one, and none of the words that cannot be raw starts with it. -/
def isSetterPrefix (value : String) : Bool :=
  value.toList.all (fun c => c == '_' || Text.isAlphanumeric c) &&
    !neverRaw.any (startsWith · value) &&
    (Ident.ofText? (value ++ "x")).isSome

/-- Check what stands in front of the names of setters. -/
def checkSetterPrefix (settings : Settings) : Except SettingsError Unit :=
  if settings.setterPrefix.isEmpty then .error (.empty .setterPrefix)
  else if !isSetterPrefix settings.setterPrefix then
    .error (.invalidIdent .setterPrefix settings.setterPrefix)
  else if startsWith settings.constructor settings.setterPrefix then
    .error (.setterClash settings.constructor settings.setterPrefix)
  else .ok ()

/-- The settings after they have been checked, up to the first one that cannot be used. -/
def resolve (settings : Settings) : Except SettingsError ResolvedSettings := do
  if settings.keyMarker.isEmpty then throw (.empty .keyMarker)
  let keysIdent ← settings.keysIdent.mapM (readIdent .keysIdent)
  let constructor ← readIdent .constructor settings.constructor
  let some runtime := Path.ofText? settings.runtimePath
    | throw (.invalidPath .runtimePath settings.runtimePath)
  settings.checkSetterPrefix
  return ⟨settings.keyMarker, keysIdent, constructor, settings.setterPrefix, runtime⟩

end Settings

end KeyedCoding
