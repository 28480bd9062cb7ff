import SchemaTypes.Declaration.Enumeration

/-!
# Declarations

* `TypeExpr`: the type of a property; `TypeExpr.reference`: the name that it refers to.
* `Initializer`: what a property is before it is assigned to.
* `Property`, `TypeDeclaration`: a type with its properties.
* **`Declarations`**: all types and enumerations that are declared, under their names.
-/

namespace SchemaTypes

/-! ## Types of properties -/

/-- The type of a property. -/
inductive TypeExpr where
  | string
  | number
  | boolean
  | date
  | any
  | openObject
  | named (name : Text)
  | array (element : TypeExpr)
deriving DecidableEq, Repr

namespace TypeExpr

/-- A type as it is written. -/
def text : TypeExpr → Text
  | string => "string"
  | number => "number"
  | boolean => "boolean"
  | date => "Date"
  | any => "any"
  | openObject => "\x7b [key: string]: any \x7d"
  | named name => name
  | array element => element.text ++ "[]"

/-- The type of the innermost elements. -/
def base : TypeExpr → TypeExpr
  | array element => element.base
  | type => type

/-- The number of array levels. -/
def depth : TypeExpr → Nat
  | array element => element.depth + 1
  | _ => 0

/-- The brackets of some array levels. -/
def brackets : (levels : Nat) → Text
  | 0 => []
  | n + 1 => brackets n ++ "[]"

/-- **A type is written as its base and a pair of brackets per array level.** -/
theorem text_eq : (type : TypeExpr) → type.text = type.base.text ++ brackets type.depth
  | array element => by rw [text, text_eq element, base, depth, brackets, List.append_assoc]
  | string | number | boolean | date | any | openObject | named _ => (List.append_nil _).symm

end TypeExpr

/-- A reversed text from where no pair of brackets ends. -/
def skipBrackets : Text → Text
  | ']' :: '[' :: t => skipBrackets t
  | t => t

/-- A written type without all pairs of brackets at its end. -/
def withoutBrackets (t : Text) : Text :=
  (skipBrackets t.reverse).reverse

/-- The name that a type refers to, if it is one. -/
def TypeExpr.reference (type : TypeExpr) : Text :=
  withoutBrackets type.text

/-! ## Types -/

/-- What a property is before it is assigned to. -/
inductive Initializer where
  | literal (value : Json)
  | date (text : Text)
  | member (enumeration name : Text)

/-- An initializer as it is written. -/
def Initializer.text : Initializer → Text
  | literal value => value.compact
  | date t => "new Date(" ++ Json.stringLiteral t ++ ")"
  | member enumeration name => enumeration ++ '.' :: name

/-- A property of a type. -/
structure Property where
  key : Text
  type : TypeExpr
  optional : Bool
  readOnly : Bool
  description : Option Text
  initializer : Option Initializer

/-- A type with its properties in the order of their keys. -/
structure TypeDeclaration where
  name : Text
  properties : List Property
  description : Option Text

/-- The names that the properties refer to. -/
def TypeDeclaration.references (t : TypeDeclaration) : List Text :=
  t.properties.map (·.type.reference)

/-! ## All declarations -/

/-- What is declared, under its names. A later declaration replaces one of the same name. -/
structure Declarations where
  types : Table TypeDeclaration := []
  enums : Table EnumDeclaration := []

namespace Declarations

/-- The declarations with a further type. -/
def addType (d : Declarations) (t : TypeDeclaration) : Declarations :=
  { d with types := Table.insert t.name t d.types }

/-- The declarations with a further enumeration. -/
def addEnum (d : Declarations) (e : EnumDeclaration) : Declarations :=
  { d with enums := Table.insert e.name e d.enums }

end Declarations

end SchemaTypes
