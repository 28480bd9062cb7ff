import SchemaTypes.Generation.Basic

/-!
# Sessions

A session is a sequence of operations on one value of settings.

* `Operation`: what can be done with settings; `Answer`: what comes of it.
* `Operation.events`: the events of an operation.
* `Operation.after`: the settings after an operation.
* **`Session.run`**: the steps of a session.
-/

namespace SchemaTypes

/-- What can be done with settings. -/
inductive Operation where
  -- changes
  | reset
  | clone
  | setStyle (name : Text)
  | setDateType (name : Text)
  | setClassTypes (names : Option (List Text))
  | setModuleName (name : Text)
  | setReadOnlyKeywords (keywords : Bool)
  | setExtensionCode (code : Text)
  | setExtendedClasses (names : Option (List Text))
  -- questions
  | settings
  | styleOf (typeName : Text)
  | chooseStyle (typeName : Text)
  | extensionClass (name : Text)
  | missingClasses
  | importCode
  | remainingCode
  | generate (schema : Text) (sink : Sink := {})
deriving DecidableEq, Repr

/-- What comes of an operation. -/
inductive Answer where
  | done
  | failure (f : Failure)
  | settings (s : Settings)
  | style (style : Style)
  | extensionClass (index : ExtensionIndex) (name : Text)
  | names (names : List Text)
  | text (t : Text)
  | document (bytes : List UInt8)

namespace Operation

/-- The settings after a name has been read, or as they were if it cannot be. -/
def changed {α : Type} (s : Settings) (value : Except Failure α) (change : α → Settings) :
    Settings :=
  match value with
  | .ok v => change v
  | .error _ => s

/-- The settings after an operation. -/
def after (s : Settings) : Operation → Settings
  | reset => {}
  | clone => s
  | setStyle name => changed s (Style.parse name) fun v => { s with style := v }
  | setDateType name => changed s (DateType.parse name) fun v => { s with dateType := v }
  | setClassTypes names => s.setClassTypes names
  | setModuleName name => { s with moduleName := name }
  | setReadOnlyKeywords keywords => { s with readOnlyKeywords := keywords }
  | setExtensionCode code => s.setExtensionCode code
  | setExtendedClasses names => s.setExtendedClasses names
  | settings => s
  | styleOf _ => s
  | chooseStyle _ => s
  | extensionClass _ => s.indexed
  | missingClasses => s.indexed
  | importCode => s.indexed
  | remainingCode => s.indexed
  | generate schema sink => (SchemaTypes.generate s schema sink).settings

/-- The answer to a change that reads a name. -/
def changeAnswer {α : Type} : Except Failure α → Answer
  | .ok _ => .done
  | .error f => .failure f

/-- The answer to a generation. -/
def generationAnswer (g : Generation) : Answer :=
  match g.failure with
  | none => .document g.output
  | some f => .failure f

/-- The answer to an operation. -/
def answer (s : Settings) : Operation → Answer
  | reset => .done
  | clone => .done
  | setStyle name => changeAnswer (Style.parse name)
  | setDateType name => changeAnswer (DateType.parse name)
  | setClassTypes _ => .done
  | setModuleName _ => .done
  | setReadOnlyKeywords _ => .done
  | setExtensionCode _ => .done
  | setExtendedClasses _ => .done
  | settings => .settings s
  | styleOf typeName => .style (s.styleOf typeName)
  | chooseStyle typeName => .style (s.template typeName)
  | extensionClass name => .extensionClass s.index name
  | missingClasses => .names s.index.missing
  | importCode => .text s.index.importCode
  | remainingCode => .text s.index.remainingCode
  | generate schema sink => generationAnswer (SchemaTypes.generate s schema sink)

/-- The events of an operation. -/
def events (s : Settings) : Operation → List Event
  | chooseStyle typeName => [s.templateEvent typeName]
  | extensionClass _ => s.indexEvents
  | missingClasses => s.indexEvents
  | importCode => s.indexEvents
  | remainingCode => s.indexEvents
  | generate schema sink => (SchemaTypes.generate s schema sink).events
  | _ => []

end Operation

/-- What comes of a step of a session. -/
structure Step where
  answer : Answer
  events : List Event

/-- The steps of a session that starts from the settings. -/
def Session.run (s : Settings) : List Operation → List Step
  | [] => []
  | o :: os => ⟨o.answer s, o.events s⟩ :: Session.run (o.after s) os

/-- The settings after a session that starts from the settings. -/
def Session.settings (s : Settings) (os : List Operation) : Settings :=
  os.foldl Operation.after s

end SchemaTypes
