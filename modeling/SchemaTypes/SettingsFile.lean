import SchemaTypes.Files.Basic
import SchemaTypes.Schema
import SchemaTypes.Settings

/-!
# Settings files

* `SettingsFile`: the settings that a file gives.
* **`SettingsFile.ofText`**: reads them from a text.
* `SettingsFile.settings`: the default settings with those that are given; the file with the
  hand-written code is looked for in a directory.
-/

namespace SchemaTypes

/-- The settings that a file gives; those that are absent or `null` have no value. -/
structure SettingsFile where
  style : Option Text := none
  classTypes : Option (List Text) := none
  dateType : Option Text := none
  moduleName : Option Text := none
  readOnlyKeywords : Option Bool := none
  extensionCode : Option Text := none
  -- the path of a file with the code, which is not looked at if there is code
  extensionCodeFile : Option Text := none
  extendedClasses : Option (List Text) := none
deriving DecidableEq, Repr

namespace SettingsFile

/-! ## Keys -/

/-- The keys of a settings file. -/
inductive Key where
  | style
  | classTypes
  | dateType
  | moduleName
  | readOnlyKeywords
  | extensionCode
  | extensionCodeFile
  | extendedClasses
deriving DecidableEq, Repr

/-- All keys, in the order of their fields. -/
def keys : List Key :=
  [.style, .classTypes, .dateType, .moduleName, .readOnlyKeywords, .extensionCode,
    .extensionCodeFile, .extendedClasses]

/-- A key as it is written. -/
def Key.text : Key → Text
  | style => "typeStyle"
  | classTypes => "classTypes"
  | dateType => "dateTimeType"
  | moduleName => "moduleName"
  | readOnlyKeywords => "generateReadOnlyKeywords"
  | extensionCode => "extensionCode"
  | extensionCodeFile => "extensionCodeFile"
  | extendedClasses => "extendedClasses"

/-! ## Reading -/

open Json

/-- Reads a list of strings. -/
def textsReader : Reader (List Text) :=
  listReader (some Schema.textReader)

/-- Reads a path. -/
def pathReader : Reader Text :=
  stringReader "path string"

/-- Reads the value of a key into the settings given so far. -/
def keyReader (k : Key) (f : SettingsFile) : Reader SettingsFile := fun input =>
  match k with
  | .style => (optional Schema.textReader input).map (·.map fun v => { f with style := v })
  | .classTypes => (optional textsReader input).map (·.map fun v => { f with classTypes := v })
  | .dateType => (optional Schema.textReader input).map (·.map fun v => { f with dateType := v })
  | .moduleName =>
    (optional Schema.textReader input).map (·.map fun v => { f with moduleName := v })
  | .readOnlyKeywords =>
    (optional boolReader input).map (·.map fun v => { f with readOnlyKeywords := v })
  | .extensionCode =>
    (optional Schema.textReader input).map (·.map fun v => { f with extensionCode := v })
  | .extensionCodeFile =>
    (optional pathReader input).map (·.map fun v => { f with extensionCodeFile := v })
  | .extendedClasses =>
    (optional textsReader input).map (·.map fun v => { f with extendedClasses := v })

/-- The record of the known keys, to which others are refused. -/
def record : Record Key SettingsFile where
  fields := keys
  key := Key.text
  field := keyReader
  strict := some "struct SettingsFile with 8 elements"

/-- The settings that the text of a file gives. -/
def ofText (text : Text) : Except Failure SettingsFile :=
  match readDocument (Record.reader "struct SettingsFile" {} (some record)) text with
  | .ok f => .ok f
  | .error fault => .error (.json text fault)

/-! ## The settings given -/

variable {m : Type → Type} [Monad m] [Files m]

/-- The settings that a file gives. -/
def load (path : Text) : ExceptT Failure m SettingsFile := do
  MonadExcept.ofExcept (ofText (← readText path))

/-- The hand-written code: what is given itself, or the text of the file in the directory. -/
def code (f : SettingsFile) (directory : Text) : ExceptT Failure m Text :=
  match f.extensionCode, f.extensionCodeFile with
  | some code, _ => return code
  | none, some path => readText (Path.join directory path)
  | none, none => return []

/-- The style that is given, or the default. -/
def style? (f : SettingsFile) : Except Failure Style :=
  match f.style with
  | some name => Style.parse name
  | none => .ok .interface

/-- The date type that is given, or the default. -/
def dateType? (f : SettingsFile) : Except Failure DateType :=
  match f.dateType with
  | some name => DateType.parse name
  | none => .ok .date

/-- The settings with what is given. -/
def settings (f : SettingsFile) (directory : Text) : ExceptT Failure m Settings := do
  let style ← MonadExcept.ofExcept f.style?
  let dates ← MonadExcept.ofExcept f.dateType?
  let code ← f.code directory
  return ({
    style := style
    dateType := dates
    moduleName := f.moduleName.getD []
    readOnlyKeywords := f.readOnlyKeywords.getD true
    classTypes := f.classTypes.map sortedDistinct
    extensionCode := code
    extendedClasses := f.extendedClasses } : Settings)

end SettingsFile

end SchemaTypes
