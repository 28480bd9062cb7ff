import SchemaTypes.Json.Record

/-!
# Schemas

A schema describes the values of a document. Ten keywords are known; all others are passed over.

* `Schema`: a schema with the values of the keywords it gives.
* `Schema.stringEnum?`: the values of an enumeration of strings.
* **`Schema.ofText`**: reads a schema from a text.
-/

namespace SchemaTypes

/-- A schema. A keyword that is absent or `null` has no value; only a default may be `null`. -/
structure Schema where
  title : Option Text := none
  description : Option Text := none
  type : Option Text := none
  format : Option Text := none
  properties : Option (List (Text × Schema)) := none
  required : Option (List Text) := none
  enumeration : Option (List Json) := none
  items : Option Schema := none
  readOnly : Bool := false
  defaultValue : Option Json := none

namespace Schema

/-- The values of the enumeration if there are any and all are strings. -/
def stringEnum? (s : Schema) : Option (List Text) :=
  match s.enumeration with
  | none => none
  | some [] => none
  | some values => values.mapM Json.string?

/-! ## Keywords -/

/-- The keywords of a schema. -/
inductive Keyword where
  | title
  | description
  | type
  | format
  | properties
  | required
  | enumeration
  | items
  | readOnly
  | defaultValue
deriving DecidableEq, Repr

/-- All keywords, in the order of their fields. -/
def keywords : List Keyword :=
  [.title, .description, .type, .format, .properties, .required, .enumeration, .items, .readOnly,
    .defaultValue]

/-- The key of a keyword. -/
def Keyword.key : Keyword → Text
  | title => "title"
  | description => "description"
  | type => "type"
  | format => "format"
  | properties => "properties"
  | required => "required"
  | enumeration => "enum"
  | items => "items"
  | readOnly => "readOnly"
  | defaultValue => "default"

/-! ## Reading -/

open Json

/-- How the parts of a schema are read that hold containers. What a container may not hold, since
it would be nested too deep, has no reader. -/
structure PartReaders where
  value : Reader Json
  enumValue : Option (Reader Json)
  name : Option (Reader Text)
  items : Reader Schema
  property : Option (Reader Schema)

/-- Reads a string. -/
def textReader : Reader Text :=
  stringReader "a string"

/-- Reads the value of a keyword into a schema. -/
def keywordReader (parts : PartReaders) (k : Keyword) (s : Schema) : Reader Schema := fun input =>
  match k with
  | .title => (optional textReader input).map (·.map fun v => { s with title := v })
  | .description => (optional textReader input).map (·.map fun v => { s with description := v })
  | .type => (optional textReader input).map (·.map fun v => { s with type := v })
  | .format => (optional textReader input).map (·.map fun v => { s with format := v })
  | .properties =>
    (optional (tableReader parts.property) input).map (·.map fun v => { s with properties := v })
  | .required =>
    (optional (listReader parts.name) input).map (·.map fun v => { s with required := v })
  | .enumeration =>
    (optional (listReader parts.enumValue) input).map (·.map fun v => { s with enumeration := v })
  | .items => (optional parts.items input).map (·.map fun v => { s with items := v })
  | .readOnly => (boolReader input).map (·.map fun v => { s with readOnly := v })
  | .defaultValue => (parts.value input).map (·.map fun v => { s with defaultValue := some v })

/-- The record of the known keywords. -/
def record (parts : PartReaders) : Record Keyword Schema where
  fields := keywords
  key := Keyword.key
  field := keywordReader parts
  strict := none

/-- Reads a schema whose parts are read as given. -/
def readerWith (parts : Option PartReaders) : Reader Schema :=
  Record.reader "struct JsonSchema" {} (parts.map record)

/-- Reads a schema whose containers are nested at most `levels` deep. -/
def reader : (levels : Nat) → Reader Schema
  | 0 => readerWith none
  | 1 => readerWith (some ⟨Json.reader 0, none, none, reader 0, none⟩)
  | n + 2 => readerWith (some
      ⟨Json.reader (n + 1), some (Json.reader n), some textReader, reader (n + 1), some (reader n)⟩)

/-- The schema in a text. -/
def ofText (text : Text) : Except Fault Schema :=
  readDocument (reader nestingLimit) text

end Schema

end SchemaTypes
