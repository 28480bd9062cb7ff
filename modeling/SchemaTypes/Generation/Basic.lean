import SchemaTypes.Generation.Document
import SchemaTypes.Generation.Sink

/-!
# Generation

* `Generation`: what comes of writing the types of a schema.
* **`generate`**: reads a schema from a text and writes its types to a sink.
-/

namespace SchemaTypes

/-- What comes of a generation, the settings being those for the next one. -/
structure Generation where
  failure : Option Failure
  output : List UInt8
  settings : Settings
  events : List Event

/-- The events before anything is written: those of the index, the extended classes that are
missing, and the template of every type. -/
def Outline.events (settings : Settings) (o : Outline) : List Event :=
  settings.indexEvents ++ settings.index.missing.map .extendedClassMissing ++
    o.types.map fun t => settings.templateEvent t.name

/-- The last event of a generation that does not fail. -/
def Outline.generatedEvent (o : Outline) : Event :=
  .generated o.declarations.types.length o.declarations.enums.length o.root

/-- The lines of a document as they are written. -/
def documentPieces (settings : Settings) (o : Outline) : List Text :=
  (document settings settings.index o).map (· ++ ['\n'])

/-- Writes the types of the schema in a text to a sink. -/
def generate (settings : Settings) (schema : Text) (sink : Sink) : Generation :=
  match Outline.ofText settings.dateType schema with
  | .error failure => ⟨some failure, [], settings, []⟩
  | .ok o =>
    let written := sink.write (documentPieces settings o)
    let failure := if written.complete then none else some (.file .full)
    let last := if written.complete then [o.generatedEvent] else []
    ⟨failure, written.bytes, settings.indexed, o.events settings ++ last⟩

end SchemaTypes
