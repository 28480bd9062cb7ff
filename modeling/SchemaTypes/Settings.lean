import SchemaTypes.Extension.Index
import SchemaTypes.Table

/-!
# Settings

Settings say how types are written and which hand-written code goes with them. The index of the
code is built when it is first asked for and kept until the code or the extended classes change.

* `Settings`: the settings; the default ones are `{}`.
* `Settings.setExtensionCode`, `Settings.setExtendedClasses`: drop the index if there is a change.
* **`Settings.index`**: the index, kept or new; `Settings.indexed`, `Settings.indexEvents` say what
  asking for it leaves behind.
* `Settings.styleOf`, `Settings.template`: the style of a type, and how it is written.
-/

namespace SchemaTypes

/-- How types are written, and the code that goes with them. -/
structure Settings where
  style : Style := .interface
  classTypes : Option (List Text) := none
  dateType : DateType := .date
  -- the module around the types; there is none if the name is empty
  moduleName : Text := []
  readOnlyKeywords : Bool := true
  extensionCode : Text := []
  extendedClasses : Option (List Text) := none
  index? : Option ExtensionIndex := none
deriving DecidableEq, Repr

namespace Settings

/-! ## Changes -/

/-- Forces types to be classes. Their names are kept in order and each once. -/
def setClassTypes (s : Settings) (names : Option (List Text)) : Settings :=
  { s with classTypes := names.map sortedDistinct }

/-- Changes the hand-written code. -/
def setExtensionCode (s : Settings) (code : Text) : Settings :=
  if code = s.extensionCode then s else { s with extensionCode := code, index? := none }

/-- Changes the names of the extended classes. -/
def setExtendedClasses (s : Settings) (names : Option (List Text)) : Settings :=
  if names = s.extendedClasses then s else { s with extendedClasses := names, index? := none }

/-! ## The index -/

/-- The index of the code as it is now. -/
def freshIndex (s : Settings) : ExtensionIndex :=
  .ofCode s.extensionCode (s.extendedClasses.getD [])

/-- The index that is kept, or a fresh one. -/
def index (s : Settings) : ExtensionIndex :=
  s.index?.getD s.freshIndex

/-- The settings after their index has been asked for. -/
def indexed (s : Settings) : Settings :=
  { s with index? := some s.index }

/-- The events of asking for the index. -/
def indexEvents (s : Settings) : List Event :=
  match s.index? with
  | some _ => []
  | none =>
    .buildingIndex (Text.byteLength s.extensionCode) ::
      ExtensionIndex.eventsOf s.extensionCode (s.extendedClasses.getD [])

/-! ## Styles -/

/-- Is the type a class in any style? -/
def isClassType (s : Settings) (name : Text) : Bool :=
  (s.classTypes.getD []).contains name

/-- The style of a type. -/
def styleOf (s : Settings) (name : Text) : Style :=
  if s.isClassType name then .plainClass else s.style

/-- The template by which a type is written. There is one for each style. -/
def template (s : Settings) (name : Text) : Style :=
  if s.isClassType name then .plainClass
  else match s.style with
    | .interface => .interface
    | .plainClass => .plainClass
    | .observableClass => .observableClass

/-- The event of choosing a template. -/
def templateEvent (s : Settings) (name : Text) : Event :=
  if s.isClassType name then .classForced name else .styleSelected name (s.template name)

/-- **A type is written in its style.** -/
theorem template_eq_styleOf (s : Settings) (name : Text) : s.template name = s.styleOf name := by
  unfold template styleOf
  cases s.style <;> rfl

end Settings

end SchemaTypes
