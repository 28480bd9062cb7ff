import SchemaTypes.Json.Compact
import SchemaTypes.Text.Visible

/-!
# Faults of a JSON document

A fault has a cause and a place. The place is kept as the number of bytes of the document behind
it, which a reader knows without counting lines; line and column are worked out from the whole
document when the fault is reported.

* `Cause`: what is wrong, with its wording in `Cause.message`.
* `Fault`: a cause and its place.
* `Fault.report`: the message of a fault with its line and column.
-/

namespace SchemaTypes.Json

/-! ## Causes -/

/-- What stands where something else was expected. -/
inductive Found where
  | null
  | bool (value : Bool)
  | number (value : Number)
  | string (value : Text)
  | sequence
  | map

/-- What was found, in words. -/
def Found.name : Found → Text
  | null => "null"
  | bool b => if b then "boolean `true`" else "boolean `false`"
  | number (.integer n) => "integer `" ++ integerLiteral n ++ "`"
  | number (.double x) => "floating point `" ++ doubleLiteral x ++ "`"
  | string t => "string " ++ Text.quoted t
  | sequence => "sequence"
  | map => "map"

/-- Why a text cannot be read. -/
inductive Cause where
  -- the document ends too early
  | endInList
  | endInObject
  | endInString
  | endInValue
  -- something else should stand here
  | expectedColon
  | expectedListCommaOrEnd
  | expectedObjectCommaOrEnd
  | expectedWord
  | expectedValue
  | keyNotString
  | trailingComma
  | trailingCharacters
  -- a string or a number is not well formed
  | controlCharacter
  | invalidEscape
  | loneSurrogate
  | unfinishedSurrogate
  | invalidNumber
  | numberOutOfRange
  -- the document does not have the expected shape
  | tooDeep
  | invalidType (found : Found) (expected : Text)
  | invalidLength (length : Nat) (expected : Text)
  | duplicateField (name : Text)
  | unknownField (name : Text) (known : List Text)

/-- A name between grave accents. -/
def graved (name : Text) : Text :=
  "`" ++ name ++ "`"

/-- The wording of a cause. -/
def Cause.message : Cause → Text
  | endInList => "EOF while parsing a list"
  | endInObject => "EOF while parsing an object"
  | endInString => "EOF while parsing a string"
  | endInValue => "EOF while parsing a value"
  | expectedColon => "expected `:`"
  | expectedListCommaOrEnd => "expected `,` or `]`"
  | expectedObjectCommaOrEnd => "expected `,` or `\x7d`"
  | expectedWord => "expected ident"
  | expectedValue => "expected value"
  | keyNotString => "key must be a string"
  | trailingComma => "trailing comma"
  | trailingCharacters => "trailing characters"
  | controlCharacter => "control character (\\u0000-\\u001F) found while parsing a string"
  | invalidEscape => "invalid escape"
  | loneSurrogate => "lone leading surrogate in hex escape"
  | unfinishedSurrogate => "unexpected end of hex escape"
  | invalidNumber => "invalid number"
  | numberOutOfRange => "number out of range"
  | tooDeep => "recursion limit exceeded"
  | invalidType found expected => "invalid type: " ++ found.name ++ ", expected " ++ expected
  | invalidLength n expected =>
    "invalid length " ++ Text.decimal n ++ ", expected " ++ expected
  | duplicateField name => "duplicate field " ++ graved name
  | unknownField name known =>
    "unknown field " ++ graved name ++ ", expected one of " ++ Text.join ", " (known.map graved)

/-! ## Places -/

/-- A cause and the number of bytes behind its place. -/
structure Fault where
  cause : Cause
  behind : Nat

/-- A fault right before a text. -/
def Fault.before (t : Text) (cause : Cause) : Fault :=
  ⟨cause, Text.byteLength t⟩

/-- A fault right after the first byte of a text, or at its end if it is empty. -/
def Fault.inside (t : Text) (cause : Cause) : Fault :=
  ⟨cause, Text.byteLength t - 1⟩

/-- A line and a column; lines count from one, columns are the bytes passed in the line. -/
structure Place where
  line : Nat
  column : Nat
deriving DecidableEq, Repr

/-- The place after one more byte. -/
def Place.next (p : Place) (byte : UInt8) : Place :=
  if byte = 10 then ⟨p.line + 1, 0⟩ else ⟨p.line, p.column + 1⟩

/-- The place after some bytes from the start. -/
def Place.after (bytes : List UInt8) : Place :=
  bytes.foldl Place.next ⟨1, 0⟩

/-- The place of a fault in a document. -/
def Fault.place (document : Text) (f : Fault) : Place :=
  let bytes := Text.utf8 document
  Place.after (bytes.take (bytes.length - f.behind))

/-- The message of a fault with its line and column. -/
def Fault.report (document : Text) (f : Fault) : Text :=
  let p := f.place document
  f.cause.message ++ " at line " ++ Text.decimal p.line ++ " column " ++ Text.decimal p.column

end SchemaTypes.Json
