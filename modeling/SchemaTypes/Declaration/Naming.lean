import SchemaTypes.Json.Compact
import SchemaTypes.Text.Blank
import SchemaTypes.Text.CamelCase

/-!
# Names

Names of types and members are made from titles, keys and values, which may be any text.

* `typeName`, `memberName`: the name made from one text. A type name may be empty.
* `typeNameOf`, `rootName`: the name of a type, which is never empty.
* `propertyName`: a key as it is written in a declaration.
-/

namespace SchemaTypes

/-- Does the text begin with a digit of ASCII? -/
def startsWithDigit : Text → Bool
  | [] => false
  | c :: _ => Text.isAsciiDigit c

/-! ## Types -/

/-- The type name made from a text; a leading digit is put behind a `T`. -/
def typeName (t : Text) : Text :=
  let name := Text.upperCamel t
  if startsWithDigit name then 'T' :: name else name

/-- The name of a type that no title and no key gives a name. -/
def anonymousName : Text := "Anonymous"

/-- The name of a root type that no title gives a name. -/
def defaultRootName : Text := "Root"

/-- The name made from a text without the blanks around it, unless it is empty. -/
def typeName? (t : Text) : Option Text :=
  match typeName (Text.trim t) with
  | [] => none
  | name => some name

/-- The name of a type, taken from its title or else from its key. -/
def typeNameOf (key : Text) (title : Option Text) : Text :=
  ((title.bind typeName?).or (typeName? key)).getD anonymousName

/-- The name of a root type, taken from its title. -/
def rootName (title : Option Text) : Text :=
  (title.bind typeName?).getD defaultRootName

/-- The name of the generated base of an extended class. -/
def baseName (name : Text) : Text :=
  name ++ "Base"

/-! ## Members -/

/-- The name of a member made from its value; nothing and a leading digit are put behind an `E`. -/
def memberName (value : Text) : Text :=
  let name := Text.upperCamel value
  if name.isEmpty || startsWithDigit name then 'E' :: name else name

/-! ## Properties -/

/-- May the character begin an identifier? -/
def startsIdentifier (c : Char) : Bool :=
  c.isAlpha || c = '_' || c = '$'

/-- May the character stand in an identifier? -/
def isIdentifierPart (c : Char) : Bool :=
  startsIdentifier c || Text.isAsciiDigit c

/-- Can the key be written without quotes? Identifiers are taken from ASCII alone. -/
def isIdentifier : Text → Bool
  | [] => false
  | c :: r => startsIdentifier c && r.all isIdentifierPart

/-- A key as it is written in a declaration: an identifier or a quoted string. -/
def propertyName (key : Text) : Text :=
  if isIdentifier key then key else Json.stringLiteral key

end SchemaTypes
