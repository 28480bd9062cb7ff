import SchemaTypes.Declaration.Naming
import SchemaTypes.Table

/-!
# Enumerations

An enumeration of strings has one member per value, in ascending order of the values.

* `EnumDeclaration`: an enumeration.
* **`enumMembers`**: the members for a list of values. Names that would be equal are numbered.
-/

namespace SchemaTypes

/-- A member of an enumeration. -/
structure EnumMember where
  name : Text
  value : Text
deriving DecidableEq, Repr

/-- An enumeration of strings. -/
structure EnumDeclaration where
  name : Text
  members : List EnumMember
  description : Option Text
deriving DecidableEq, Repr

/-- The member of an enumeration that has a value. -/
def EnumDeclaration.member? (e : EnumDeclaration) (value : Text) : Option EnumMember :=
  e.members.find? (·.value = value)

/-! ## Members for values -/

/-- A name among others; if it is shared, the number of its equals before it follows. -/
def distinctName (before : List Text) (name : Text) (after : List Text) : Text :=
  if before.contains name || after.contains name then
    name ++ '_' :: Text.decimal (before.count name)
  else name

/-- The members for values. The names made from the values before them are given. -/
def enumMembersFrom (before : List Text) : (values : List Text) → List EnumMember
  | [] => []
  | v :: vs =>
    let name := memberName v
    ⟨distinctName before name (vs.map memberName), v⟩ :: enumMembersFrom (name :: before) vs

/-- The members for values, in the order of the values. -/
def enumMembers (values : List Text) : List EnumMember :=
  enumMembersFrom [] (sortedDistinct values)

/-- **The members have the values, in order.** -/
theorem map_value_enumMembersFrom (before values : List Text) :
    (enumMembersFrom before values).map EnumMember.value = values := by
  induction values generalizing before with
  | nil => rfl
  | cons v vs ih => simp [enumMembersFrom, ih]

end SchemaTypes
