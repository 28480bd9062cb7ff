import SchemaTypes.Files.Basic
import SchemaTypes.Generation.Basic

/-!
# Generation from file to file

* `writeDocument`: writes the types of a schema to a file.
* **`generateFile`**: reads the schema from a file, too.
-/

namespace SchemaTypes

variable {m : Type → Type} [Monad m] [Files m]

/-- Writes the types of the schema in a text to a file, which is created first. -/
def writeDocument (settings : Settings) (schema output : Text) : ExceptT Failure m Unit := do
  match ← Files.create (m := m) output with
  | .error fault => throw (.file fault)
  | .ok () =>
    let g := generate settings schema {}
    Files.append (m := m) output g.output
    match g.failure with
    | some f => throw f
    | none => return

/-- Writes the types of the schema in a file to another file. -/
def generateFile (settings : Settings) (input output : Text) : ExceptT Failure m Unit := do
  writeDocument settings (← readText input) output

end SchemaTypes
