import SchemaTypes.Text.Basic

/-!
# Styles

* `Style`: the forms in which a type can be written.
* `DateType`: the type of dates.
* `Style.ofText?`, `DateType.ofText?`: read from their names, whatever the case of ASCII letters.
-/

namespace SchemaTypes

/-- The form in which a type is written. -/
inductive Style where
  | interface
  | plainClass
  | observableClass
deriving DecidableEq, Repr

/-- The name of a style. -/
def Style.name : Style → Text
  | interface => "Interface"
  | plainClass => "Class"
  | observableClass => "KnockoutClass"

/-- The style with a name, in which the case of letters does not count. -/
def Style.ofText? (t : Text) : Option Style :=
  let name := Text.asciiLower t
  if name = "interface" then some interface
  else if name = "class" then some plainClass
  else if name = "knockoutclass" ∨ name = "knockout-class" ∨ name = "knockout" then
    some observableClass
  else none

/-- The type of strings that are dates. -/
inductive DateType where
  | date
  | string
deriving DecidableEq, Repr

/-- The name of a type of dates. -/
def DateType.name : DateType → Text
  | date => "Date"
  | string => "String"

/-- The type of dates with a name, in which the case of letters does not count. -/
def DateType.ofText? (t : Text) : Option DateType :=
  let name := Text.asciiLower t
  if name = "date" then some date else if name = "string" then some string else none

end SchemaTypes
