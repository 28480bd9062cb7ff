import SchemaTypes.CommandLine.Arguments
import SchemaTypes.Generation.File
import SchemaTypes.SettingsFile

/-!
# A run of the program

* `Arguments.settings`: the settings of the settings file, on which those of the arguments are
  laid.
* `Arguments.generate`: reads the schema and writes its types.
* **`run`**: what the program answers to its arguments.
-/

namespace SchemaTypes.CommandLine

/-- What a program leaves behind, files apart. -/
structure Outcome where
  exitCode : Nat
  output : List UInt8
  errors : Text
deriving DecidableEq, Repr

variable {m : Type → Type} [Monad m] [Files m]

namespace Arguments

/-- The settings of the settings file, which may name a file beside it. -/
def baseSettings (a : Arguments) : ExceptT Failure m Settings :=
  match a.config with
  | none => return {}
  | some path => do (← SettingsFile.load path).settings (Path.directory path)

/-- Settings with the values of the arguments that name no file in place of their own. -/
def overlay (a : Arguments) (s : Settings) : Settings :=
  { s with
    style := a.style.getD s.style
    classTypes := (a.classTypes.map sortedDistinct).or s.classTypes
    dateType := a.dateType.getD s.dateType
    moduleName := a.moduleName.getD s.moduleName
    readOnlyKeywords := s.readOnlyKeywords && !a.noReadOnly }

/-- Settings with the hand-written code of the file that the arguments name. -/
def withCode (a : Arguments) (s : Settings) : ExceptT Failure m Settings :=
  match a.extensionCode with
  | none => return s
  | some path => do return s.setExtensionCode (← readText path)

/-- Settings with the extended classes of the arguments. -/
def withExtendedClasses (a : Arguments) (s : Settings) : Settings :=
  match a.extendedClasses with
  | none => s
  | some names => s.setExtendedClasses (some names)

/-- The settings of the settings file and, laid on them, those of the arguments. -/
def settings (a : Arguments) : ExceptT Failure m Settings := do
  let s ← a.withCode (a.overlay (← a.baseSettings))
  return a.withExtendedClasses s

/-- The text of the schema: a file, or what comes in if no file is named. -/
def schema (a : Arguments) (incoming : m (List UInt8)) : ExceptT Failure m Text :=
  match a.input with
  | some path => readText path
  | none => ExceptT.mk ((decodeText ∘ .ok) <$> incoming)

/-- Writes the types to the file that is named; without one the bytes are the answer. -/
def generate (a : Arguments) (incoming : m (List UInt8)) : ExceptT Failure m (List UInt8) := do
  let settings ← a.settings
  let schema ← a.schema incoming
  match a.output with
  | some path =>
    writeDocument settings schema path
    return []
  | none =>
    let g := SchemaTypes.generate settings schema {}
    match g.failure with
    | some f => throw f
    | none => return g.output

end Arguments

/-- What the program says of its version. -/
def versionLine : Text := "json-schema-ts 0.1.0"

/-- What the program answers to its arguments. What comes in is read only if it is needed. -/
def run (incoming : m (List UInt8)) (arguments : List Text) : m Outcome :=
  match Request.ofArguments arguments with
  | .error fault => return ⟨2, [], fault.report⟩
  | .ok .version => return ⟨0, Text.utf8 (versionLine ++ ['\n']), []⟩
  | .ok (.generate a) => do
    match ← (a.generate incoming).run with
    | .ok output => return ⟨0, output, []⟩
    | .error failure => return ⟨1, [], "Error: " ++ failure.message ++ ['\n']⟩

end SchemaTypes.CommandLine
