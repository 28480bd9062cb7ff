import SchemaTypes.Extension.ClassScan
import SchemaTypes.Style

/-!
# Events

What the library does behind an answer is told by events, in the order in which it happens.

* `Event`: the events.
* `Event.level`, `Event.message`, `Event.fields`: how an event is written down.
-/

namespace SchemaTypes

/-- Something that happened on the way to an answer. -/
inductive Event where
  | buildingIndex (bytes : Nat)
  | classesUnknown (fault : ClassFault)
  | indexBuilt (classes extended : Nat)
  | extendedClassMissing (name : Text)
  | classForced (typeName : Text)
  | styleSelected (typeName : Text) (style : Style)
  | generated (types enums : Nat) (root : Text)
deriving DecidableEq, Repr

namespace Event

/-- How much an event matters. -/
inductive Level where
  | warn
  | debug
  | trace
deriving DecidableEq, Repr

/-- The name of a level. -/
def Level.name : Level → Text
  | warn => "WARN"
  | debug => "DEBUG"
  | trace => "TRACE"

/-- What a field of an event tells. -/
inductive Value where
  | count (n : Nat)
  | text (t : Text)
deriving DecidableEq, Repr

/-- The level of an event. -/
def level : Event → Level
  | extendedClassMissing _ => .warn
  | classForced _ => .trace
  | styleSelected _ _ => .trace
  | _ => .debug

/-- The wording of an event. -/
def message : Event → Text
  | buildingIndex _ => "building processed extension code"
  | classesUnknown _ => "extension code treated as containing no classes"
  | indexBuilt _ _ => "processed extension code"
  | extendedClassMissing _ => "extended class not found in extension code"
  | classForced _ => "forced class template"
  | styleSelected _ _ => "selected template"
  | generated _ _ _ => "generated TypeScript"

/-- The fields of an event. -/
def fields : Event → List (Text × Value)
  | buildingIndex bytes => [("bytes", .count bytes)]
  | classesUnknown fault => [("error", .text fault.message)]
  | indexBuilt classes extended => [("classes", .count classes), ("extended", .count extended)]
  | extendedClassMissing name => [("class", .text name)]
  | classForced typeName => [("type_name", .text typeName)]
  | styleSelected typeName style => [("type_name", .text typeName), ("template", .text style.name)]
  | generated types enums root =>
    [("types", .count types), ("enums", .count enums), ("root", .text root)]

end Event

end SchemaTypes
