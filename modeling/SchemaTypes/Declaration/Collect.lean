import SchemaTypes.Declaration.Basic
import SchemaTypes.Schema
import SchemaTypes.Style

/-!
# Declarations of a schema

The properties of a schema are gone through in the order of their keys; what a property needs is
declared before the type that has it.

* `Schema.shape`: what kind of values a schema describes.
* `Initializer.ofDefault?`: the initializer that a default gives a property.
* `resolve`: the type of the values under a key, and the declarations that it needs.
* **`Declarations.ofSchema`**: all declarations of a schema.
-/

namespace SchemaTypes

/-! ## Shapes -/

/-- The kinds of values that a schema can describe. -/
inductive Shape where
  | enumeration (values : List Text)
  | string
  | date
  | number
  | boolean
  | array
  | openObject
  | record
  | any
deriving DecidableEq, Repr

namespace Schema

/-- Do the strings of the format tell dates? -/
def isDateFormat (format : Option Text) : Bool :=
  format = some ("date-time" : Text) || format = some ("date" : Text)

/-- Does the schema have a property? -/
def hasProperties (s : Schema) : Bool :=
  s.properties.any fun properties => !properties.isEmpty

/-- The kind of values that a type tells. -/
def shapeOfType (s : Schema) (type : Text) : Shape :=
  if type = "string" then if isDateFormat s.format then .date else .string
  else if type = "integer" ∨ type = "number" then .number
  else if type = "boolean" then .boolean
  else if type = "array" then .array
  else if type = "object" then if s.hasProperties then .record else .openObject
  else .any

/-- The kind of values that a schema describes. An enumeration of strings is one whatever its type
is. -/
def shape (s : Schema) : Shape :=
  match s.stringEnum? with
  | some values => .enumeration values
  | none => (s.type.map s.shapeOfType).getD .any

end Schema

/-- A description without the blanks around it, unless it is blank. -/
def describe (description : Option Text) : Option Text :=
  (description.map Text.trim).filter fun t => !t.isEmpty

/-! ## Initializers -/

/-- The initializer that a default gives a property of the written type. -/
def Initializer.ofText? (type : Text) (value : Json) : Option Initializer :=
  if type = "string" ∧ value.isString then some (literal value)
  else if type = "number" ∧ value.isNumber then some (literal value)
  else if type = "boolean" ∧ value.isBool then some (literal value)
  else if type = "Date" then value.string?.map date
  else none

/-- The initializer that a default gives a property. For an enumeration it is the member with the
value. -/
def Initializer.ofDefault? (enums : Table EnumDeclaration) (type : TypeExpr) (value : Json) :
    Option Initializer :=
  match type with
  | .array _ => if value.isArray then some (literal value) else none
  | scalar =>
    match Table.get? enums scalar.text with
    | some e => do
      let m ← e.member? (← value.string?)
      return member scalar.text m.name
    | none => ofText? scalar.text value

/-! ## Types -/

/-- The type of strings that are dates. -/
def DateType.expr : DateType → TypeExpr
  | date => .date
  | string => .string

/-- A property of the type for a schema under a key. -/
def Property.ofSchema (required : Option (List Text)) (enums : Table EnumDeclaration) (key : Text)
    (s : Schema) (type : TypeExpr) : Property where
  key := key
  type := type
  optional := !(required.getD []).contains key
  readOnly := s.readOnly
  description := describe s.description
  initializer := s.defaultValue.bind (Initializer.ofDefault? enums type)

mutual

/-- The type of the values under a key, and all declarations with those that it needs. -/
def resolve (dates : DateType) (key : Text) : Schema → Declarations → TypeExpr × Declarations
  | s@⟨title, description, _, _, properties, required, _, items, _, _⟩, d =>
    let name := typeNameOf key title
    match s.shape with
    | .enumeration values =>
      (.named name, d.addEnum ⟨name, enumMembers values, describe description⟩)
    | .string => (.string, d)
    | .date => (dates.expr, d)
    | .number => (.number, d)
    | .boolean => (.boolean, d)
    | .array =>
      match items with
      | none => (.array .any, d)
      | some item =>
        let element := resolve dates key item d
        (.array element.1, element.2)
    | .openObject => (.openObject, d)
    | .record =>
      match properties with
      | none => (.named name, d)
      | some members =>
        let own := resolveAll dates required members d
        (.named name, own.2.addType ⟨name, own.1, describe description⟩)
    | .any => (.any, d)

/-- The properties for a list of keys and schemas, and all declarations with those that they
need. -/
def resolveAll (dates : DateType) (required : Option (List Text)) :
    List (Text × Schema) → Declarations → List Property × Declarations
  | [], d => ([], d)
  | (key, s) :: rest, d =>
    let value := resolve dates key s d
    let others := resolveAll dates required rest value.2
    (.ofSchema required value.2.enums key s value.1 :: others.1, others.2)

end

/-- The declarations of a schema whose own type has the name: none if it has no properties. -/
def Declarations.ofSchema (dates : DateType) (name : Text) (s : Schema) : Declarations :=
  match s.properties with
  | none => {}
  | some [] => {}
  | some members =>
    let own := resolveAll dates s.required members {}
    own.2.addType ⟨name, own.1, describe s.description⟩

end SchemaTypes
