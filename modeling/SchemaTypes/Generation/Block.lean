import SchemaTypes.Declaration.Basic
import SchemaTypes.Generation.Comment
import SchemaTypes.Style

/-!
# Blocks

Every declaration is written as a block of lines whose last line is empty.

* `enumBlock`: the block of an enumeration.
* `memberLine`: the line of a property in a style.
* **`typeBlock`**: the block of a type in a style. A type may be written under another name than
  its own.
-/

namespace SchemaTypes

/-- What stands before everything in a block but its first and last line. -/
def indentation : Text := "    "

/-- The lines at the end of a block. -/
def closingLines : List Text := ["\x7d", []]

/-! ## Enumerations -/

/-- The line of a member. -/
def EnumMember.line (m : EnumMember) : Text :=
  indentation ++ m.name ++ " = " ++ Json.stringLiteral m.value ++ ","

/-- The block of an enumeration. -/
def enumBlock (e : EnumDeclaration) : List Text :=
  docComment [] e.description ++ ("export enum " ++ e.name ++ " \x7b") ::
    e.members.map EnumMember.line ++ closingLines

/-! ## Properties -/

/-- The keyword before a property that is only read, if such keywords are written. -/
def readOnlyMark (keywords : Bool) (p : Property) : Text :=
  if p.readOnly && keywords then "readonly " else []

/-- The mark behind the name of a property of a class: without an initializer the property may be
missing, or is assigned to later. -/
def presenceMark (p : Property) : Text :=
  if p.initializer.isSome then [] else if p.optional then ['?'] else ['!']

/-- The initializer of a property as an argument; nothing if there is none. -/
def argument (p : Property) : Text :=
  match p.initializer with
  | none => []
  | some i => i.text

/-- The assignment of the initializer of a property; nothing if there is none. -/
def assignment (p : Property) : Text :=
  match p.initializer with
  | none => []
  | some i => " = " ++ i.text

/-- The call that makes the observable of a property. -/
def observableCall (p : Property) : Text :=
  match p.type with
  | .array element =>
    "ko.observableArray<" ++ element.text ++ ">(" ++ argument p ++ ")"
  | scalar => "ko.observable<" ++ scalar.text ++ ">(" ++ argument p ++ ")"

/-- What stands behind the name of a property in a style. -/
def memberTail (p : Property) : Style → Text
  | .interface => (if p.optional then ['?'] else []) ++ ": " ++ p.type.text
  | .plainClass => presenceMark p ++ ": " ++ p.type.text ++ assignment p
  | .observableClass => " = " ++ observableCall p

/-- The line of a property in a style. -/
def memberLine (style : Style) (keywords : Bool) (p : Property) : Text :=
  indentation ++ readOnlyMark keywords p ++ propertyName p.key ++ memberTail p style ++ ";"

/-- The line of a property below its comment. -/
def memberLines (style : Style) (keywords : Bool) (p : Property) : List Text :=
  docComment indentation p.description ++ [memberLine style keywords p]

/-! ## Types -/

/-- The keyword by which a style declares a type. -/
def Style.keyword : Style → Text
  | interface => "interface"
  | plainClass | observableClass => "class"

/-- The constructor of a class, which takes any part of its data. -/
def constructorLines (name : Text) : List Text :=
  ["    constructor(data?: Partial<" ++ name ++ ">) \x7b",
   "        if (data) \x7b",
   "            Object.assign(this, data);",
   "        \x7d",
   "    \x7d"]

/-- The lines behind the properties of a type. The constructor stands apart from the properties. -/
def trailerLines (name : Text) (properties : List Property) : Style → List Text
  | .plainClass => (if properties.isEmpty then [] else [[]]) ++ constructorLines name
  | .interface | .observableClass => []

/-- The block of a type that is written under a name. -/
def typeBlock (style : Style) (keywords : Bool) (name : Text) (t : TypeDeclaration) : List Text :=
  docComment [] t.description ++ ("export " ++ style.keyword ++ " " ++ name ++ " \x7b") ::
    t.properties.flatMap (memberLines style keywords) ++
      trailerLines name t.properties style ++ closingLines

end SchemaTypes
