import SchemaTypes.Json.Fault
import SchemaTypes.Style

/-!
# Failures

* `FileFault`: why a file cannot be used.
* `Failure`: why there is no result.
* `Failure.message`: the wording of a failure.
* `Style.parse`, `DateType.parse`: names as the settings give them.
-/

namespace SchemaTypes

/-- Why a file or a stream cannot be used. -/
inductive FileFault where
  | notFound
  | notDirectory
  | isDirectory
  | notText
  | full
deriving DecidableEq, Repr

/-- The wording of a fault. -/
def FileFault.message : FileFault → Text
  | notFound => "No such file or directory (os error 2)"
  | notDirectory => "Not a directory (os error 20)"
  | isDirectory => "Is a directory (os error 21)"
  | notText => "stream did not contain valid UTF-8"
  | full => "writer is full"

/-- Why there is no result. -/
inductive Failure where
  | unsupportedStyle (name : Text)
  | unsupportedDateType (name : Text)
  | rootNotObject
  | noTypes
  | file (fault : FileFault)
  | json (document : Text) (fault : Json.Fault)

/-- The wording of a failure. -/
def Failure.message : Failure → Text
  | unsupportedStyle name =>
    "unsupported type style \"" ++ name ++ "\" (expected Interface, Class or KnockoutClass)"
  | unsupportedDateType name =>
    "unsupported date time type \"" ++ name ++ "\" (expected Date or String)"
  | rootNotObject => "root schema must have type \"object\""
  | noTypes => "no types to generate (root object has no supported properties)"
  | file fault => fault.message
  | json document fault => fault.report document

/-- The style with a name. -/
def Style.parse (name : Text) : Except Failure Style :=
  match Style.ofText? name with
  | some style => .ok style
  | none => .error (.unsupportedStyle name)

/-- The type of dates with a name. -/
def DateType.parse (name : Text) : Except Failure DateType :=
  match DateType.ofText? name with
  | some dates => .ok dates
  | none => .error (.unsupportedDateType name)

end SchemaTypes
