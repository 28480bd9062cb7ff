import SchemaTypes.Event
import SchemaTypes.Extension.Imports

/-!
# The index of hand-written code

Hand-written code goes with the generated code in three parts: imports before it, extended classes
behind the types that they extend, and all else at its end.

* `ExtensionIndex`: the parts.
* **`ExtensionIndex.ofCode`**: the index of a code and a list of extended classes.
* `ExtensionIndex.eventsOf`: the events on the way to it.
-/

namespace SchemaTypes

/-- A class of the hand-written code, with its whole text and that of its body. -/
structure HandwrittenClass where
  name : Text
  code : Text
  body : Text
deriving DecidableEq, Repr

/-- The parts of a hand-written code. -/
structure ExtensionIndex where
  importCode : Text
  -- what is left without the imports and the extended classes
  remainingCode : Text
  classes : List HandwrittenClass
  -- the names of the extended classes, whether they are declared or not
  extended : List Text
deriving DecidableEq, Repr

/-- The characters of a text between two positions. -/
def Text.slice (t : Text) (start stop : Nat) : Text :=
  (t.drop start).take (stop - start)

namespace ExtensionIndex

/-! ## Building -/

/-- The code whose imports and classes are looked for: all of it but its carriage returns. -/
def split (code : Text) : ImportSplit :=
  .ofCode (code.filter (· ≠ '\r'))

/-- The classes of a code; none if they cannot be told. -/
def spansOf (body : Text) : List ClassSpan :=
  match scanClasses body with
  | .ok spans => spans
  | .error _ => []

/-- The class at a span. -/
def classAt (body : Text) (s : ClassSpan) : HandwrittenClass where
  name := s.name
  code := Text.trim (body.slice s.start s.stop)
  body := body.slice s.bodyStart s.bodyStop

/-- The code from a position on without the classes of the given names. -/
def without (names : List Text) (body : Text) (position : Nat) : List ClassSpan → Text
  | [] => body.drop position
  | s :: spans =>
    if s.name ∈ names then body.slice position s.start ++ without names body s.stop spans
    else without names body position spans

/-- The index of a code and the names of the extended classes. -/
def ofCode (code : Text) (extended : List Text) : ExtensionIndex :=
  let parts := split code
  let spans := spansOf parts.body
  { importCode := parts.importCode
    remainingCode := Text.trim (without extended parts.body 0 spans)
    classes := spans.map (classAt parts.body)
    extended := extended }

/-- The events on the way to an index. -/
def eventsOf (code : Text) (extended : List Text) : List Event :=
  let body := (split code).body
  let unknown := match scanClasses body with
    | .ok _ => []
    | .error fault => [Event.classesUnknown fault]
  unknown ++ [.indexBuilt (spansOf body).length extended.length]

/-! ## Questions -/

/-- The first class with the name. -/
def class? (index : ExtensionIndex) (name : Text) : Option HandwrittenClass :=
  index.classes.find? (·.name = name)

/-- Does the code declare a class with the name? -/
def hasClass (index : ExtensionIndex) (name : Text) : Bool :=
  (index.class? name).isSome

/-- The class that extends the type with the name. -/
def extension? (index : ExtensionIndex) (name : Text) : Option HandwrittenClass :=
  if name ∈ index.extended then index.class? name else none

/-- Is there a class that extends the type with the name? -/
def isExtended (index : ExtensionIndex) (name : Text) : Bool :=
  (index.extension? name).isSome

/-- The names of extended classes that the code does not declare. -/
def missing (index : ExtensionIndex) : List Text :=
  index.extended.filter (!index.hasClass ·)

end ExtensionIndex

end SchemaTypes
