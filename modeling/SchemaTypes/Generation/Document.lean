import SchemaTypes.Declaration.Collect
import SchemaTypes.Declaration.Order
import SchemaTypes.Failure
import SchemaTypes.Generation.Block
import SchemaTypes.Settings

/-!
# Documents

* `Outline`: the declarations of a schema and the name of its root type.
* `body`: the enumerations, the types with the classes that extend them, and the rest of the
  hand-written code.
* **`document`**: the body below the header and the imports, and inside the module if there is one.
-/

namespace SchemaTypes

/-! ## Outlines -/

/-- The declarations of a schema and the name of its root type. -/
structure Outline where
  root : Text
  declarations : Declarations

namespace Outline

/-- The outline of a schema, which has to describe objects with properties. -/
def ofSchema (dates : DateType) (s : Schema) : Except Failure Outline :=
  if s.type = some ("object" : Text) then
    let root := rootName s.title
    let declarations := Declarations.ofSchema dates root s
    if declarations.types.isEmpty then .error .noTypes else .ok ⟨root, declarations⟩
  else .error .rootNotObject

/-- The outline of the schema in a text. -/
def ofText (dates : DateType) (text : Text) : Except Failure Outline :=
  match Schema.ofText text with
  | .ok s => ofSchema dates s
  | .error fault => .error (.json text fault)

/-- The names of the types in the order in which they are written. -/
def typeNames (o : Outline) : List Text :=
  declarationOrder o.declarations.types o.root

/-- The types in the order in which they are written. -/
def types (o : Outline) : List TypeDeclaration :=
  o.typeNames.filterMap (Table.get? o.declarations.types)

end Outline

/-! ## The body -/

/-- The lines of a type. A type that a class extends is written under the name of its base, and
the class follows. -/
def typeLines (settings : Settings) (index : ExtensionIndex) (t : TypeDeclaration) : List Text :=
  let block := typeBlock (settings.template t.name) settings.readOnlyKeywords
  match index.extension? t.name with
  | some c => block (baseName t.name) t ++ [c.code, []]
  | none => block t.name t

/-- The hand-written code at the end. -/
def remainderLines (index : ExtensionIndex) : List Text :=
  if index.remainingCode.isEmpty then [] else [index.remainingCode]

/-- The body without the blanks at its end. -/
def body (settings : Settings) (index : ExtensionIndex) (o : Outline) : Text :=
  Text.trimEnd (unlines (o.declarations.enums.values.flatMap enumBlock ++
    o.types.flatMap (typeLines settings index) ++ remainderLines index))

/-! ## The document -/

/-- The first line of every document. -/
def headerLine : Text := "// Generated by json-schema-ts. Do not edit manually."

/-- The lines before the body: the header and the imports. -/
def preambleLines (index : ExtensionIndex) : List Text :=
  [headerLine, []] ++ if index.importCode.isEmpty then [] else [index.importCode, []]

/-- A line inside a module; an empty one is not moved. -/
def moduleLine (line : Text) : Text :=
  if line.isEmpty then [] else indentation ++ line

/-- A body inside the module with the name, or as it is if the name is empty. -/
def moduleLines (name : Text) (body : Text) : List Text :=
  if name.isEmpty then [body]
  else ("module " ++ name ++ " \x7b") :: (Text.lines body).map moduleLine ++ [("\x7d" : Text)]

/-- The lines of a document. -/
def document (settings : Settings) (index : ExtensionIndex) (o : Outline) : List Text :=
  preambleLines index ++ moduleLines settings.moduleName (body settings index o)

end SchemaTypes
