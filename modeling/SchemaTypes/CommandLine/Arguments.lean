import SchemaTypes.Failure
import SchemaTypes.Text.Plain

/-!
# Arguments

* `Switch`: what an argument with a leading hyphen can stand for.
* `Arguments`: the values that are given for the switches.
* `ArgumentFault`: what is wrong with the arguments; its wording is `ArgumentFault.report`.
* **`Request.ofArguments`**: what a list of arguments asks for.
-/

namespace SchemaTypes.CommandLine

/-! ## Switches -/

/-- What an argument with a leading hyphen can stand for. -/
inductive Switch where
  | input
  | output
  | config
  | style
  | classTypes
  | dateType
  | moduleName
  | noReadOnly
  | extensionCode
  | extendedClasses
  | version
deriving DecidableEq, Repr

namespace Switch

/-- All switches. -/
def all : List Switch :=
  [input, output, config, style, classTypes, dateType, moduleName, noReadOnly, extensionCode,
    extendedClasses, version]

/-- The name of a switch, which is written behind two hyphens. -/
def name : Switch → Text
  | input => "input"
  | output => "output"
  | config => "config"
  | style => "type-style"
  | classTypes => "class-types"
  | dateType => "date-time-type"
  | moduleName => "module-name"
  | noReadOnly => "no-readonly"
  | extensionCode => "extension-code"
  | extendedClasses => "extended-classes"
  | version => "version"

/-- The letter of a switch, which is written behind one hyphen. -/
def letter? : Switch → Option Char
  | input => some 'i'
  | output => some 'o'
  | version => some 'V'
  | _ => none

/-- Does a value go with the switch? -/
def takesValue : Switch → Bool
  | noReadOnly | version => false
  | _ => true

/-- The name of the value of a switch: its own name in capitals. -/
def valueName (s : Switch) : Text :=
  s.name.map fun c => if c = '-' then '_' else c.toUpper

/-- A switch as faults name it. -/
def display (s : Switch) : Text :=
  "--" ++ s.name ++ if s.takesValue then " <" ++ s.valueName ++ ">" else []

/-- The switch with a name. -/
def ofName? (name : Text) : Option Switch :=
  all.find? (·.name = name)

/-- The switch with a letter. -/
def ofLetter? (c : Char) : Option Switch :=
  all.find? (·.letter? = some c)

end Switch

/-! ## Faults -/

/-- Why arguments cannot be taken. -/
inductive ArgumentFault where
  | unexpectedArgument (argument : Text)
  | missingValue (switch : Switch)
  | repeated (switch : Switch)
  | unexpectedValue (switch : Switch) (value : Text)
  | invalidValue (switch : Switch) (value : Text) (failure : Failure)

/-- A text between single quotation marks, without what would steer a terminal. -/
def marked (t : Text) : Text :=
  '\'' :: Text.plain t ++ ['\'']

namespace ArgumentFault

/-- The wording of a fault, without its reason. -/
def message : ArgumentFault → Text
  | unexpectedArgument argument => "unexpected argument " ++ marked argument ++ " found"
  | missingValue s => "a value is required for " ++ marked s.display ++ " but none was supplied"
  | repeated s => "the argument " ++ marked s.display ++ " cannot be used multiple times"
  | unexpectedValue s value =>
    "unexpected value " ++ marked value ++ " for " ++ marked s.display ++
      " found; no more were expected"
  | invalidValue s value _ => "invalid value " ++ marked value ++ " for " ++ marked s.display

/-- Why the arguments are at fault, if there is more to say. -/
def reason : ArgumentFault → Text
  | invalidValue _ _ failure => ": " ++ failure.message
  | _ => []

/-- What leads on to the hint. -/
def closing : Text :=
  "\n\nFor more information, try '"

/-- What is written down about a fault. The reason may hold a value as it was given; a control
sequence that it leaves open goes on in the closing words, up to the hint. -/
def report (fault : ArgumentFault) : Text :=
  "error: " ++ fault.message ++ Text.plain (fault.reason ++ closing) ++ "--help'.\n"

end ArgumentFault

/-! ## Values -/

/-- The values that arguments give. -/
structure Arguments where
  input : Option Text := none
  output : Option Text := none
  config : Option Text := none
  style : Option Style := none
  classTypes : Option (List Text) := none
  dateType : Option DateType := none
  moduleName : Option Text := none
  noReadOnly : Bool := false
  extensionCode : Option Text := none
  extendedClasses : Option (List Text) := none
deriving DecidableEq, Repr

namespace Arguments

/-- The first value of a switch that may be given once only. -/
def once {α : Type} (s : Switch) (given : Option α) (value : Except ArgumentFault α) :
    Except ArgumentFault (Option α) :=
  if given.isSome then .error (.repeated s) else value.map some

/-- A value that is a path, which is not empty. -/
def path (s : Switch) (value : Text) : Except ArgumentFault Text :=
  if value.isEmpty then .error (.missingValue s) else .ok value

/-- A value that is read from its name. -/
def named {α : Type} (s : Switch) (value : Text) (v : Except Failure α) :
    Except ArgumentFault α :=
  v.mapError (.invalidValue s value)

/-- The values given so far and those that a comma parts in a further one. -/
def more (given : Option (List Text)) (value : Text) : Option (List Text) :=
  some (given.getD [] ++ Text.pieces ',' value)

/-- The arguments with a further value of a switch. -/
def setValue (a : Arguments) (s : Switch) (value : Text) : Except ArgumentFault Arguments :=
  match s with
  | .input => (once s a.input (path s value)).map fun v => { a with input := v }
  | .output => (once s a.output (path s value)).map fun v => { a with output := v }
  | .config => (once s a.config (path s value)).map fun v => { a with config := v }
  | .style => (once s a.style (named s value (Style.parse value))).map fun v =>
      { a with style := v }
  | .classTypes => .ok { a with classTypes := more a.classTypes value }
  | .dateType => (once s a.dateType (named s value (DateType.parse value))).map fun v =>
      { a with dateType := v }
  | .moduleName => (once s a.moduleName (.ok value)).map fun v => { a with moduleName := v }
  | .extensionCode => (once s a.extensionCode (path s value)).map fun v =>
      { a with extensionCode := v }
  | .extendedClasses => .ok { a with extendedClasses := more a.extendedClasses value }
  | .noReadOnly | .version => .error (.unexpectedValue s value)

/-- The arguments with the one switch that has no value. -/
def setFlag (a : Arguments) : Except ArgumentFault Arguments :=
  if a.noReadOnly then .error (.repeated .noReadOnly) else .ok { a with noReadOnly := true }

end Arguments

/-! ## Reading -/

/-- What arguments ask for. -/
inductive Request where
  | version
  | generate (a : Arguments)

/-- What an argument looks like. -/
inductive Token where
  | terminator
  | long (name : Text) (value : Option Text)
  | short (letter : Char) (rest : Text)
  | word (t : Text)
deriving DecidableEq, Repr

/-- A text up to an equals sign, and the text behind it if there is one. -/
def splitValue (t : Text) : Text × Option Text :=
  match t.dropWhile (· ≠ '=') with
  | [] => (t, none)
  | _ :: value => (t.takeWhile (· ≠ '='), some value)

/-- What an argument looks like. A hyphen alone is a word. -/
def Token.ofArgument : Text → Token
  | ['-', '-'] => .terminator
  | '-' :: '-' :: r => let (name, value) := splitValue r; .long name value
  | '-' :: c :: r => .short c r
  | t => .word t

/-- What has been read of arguments. -/
structure ReadState where
  arguments : Arguments := {}
  -- a switch whose value may follow, or has followed but has not been taken yet
  pending : Option (Switch × Option Text) := none

namespace ReadState

/-- The values of the arguments so far, with that of a switch that waited for one. -/
def settle (r : ReadState) : Except ArgumentFault Arguments :=
  match r.pending with
  | none => .ok r.arguments
  | some (s, none) => .error (.missingValue s)
  | some (s, some value) => r.arguments.setValue s value

/-- Takes a switch with its value. -/
def withValue (r : ReadState) (s : Switch) (value : Text) : Except ArgumentFault ReadState := do
  return { arguments := ← (← r.settle).setValue s value }

/-- Takes a switch whose value is to follow. -/
def expect (r : ReadState) (s : Switch) : Except ArgumentFault ReadState := do
  return { arguments := ← r.settle, pending := some (s, none) }

/-- Takes the switch that has no value. -/
def withFlag (r : ReadState) : Except ArgumentFault ReadState := do
  return { arguments := ← (← r.settle).setFlag }

/-- Takes a word: the value of a switch that waits for one. -/
def withWord (r : ReadState) (t : Text) : Except ArgumentFault ReadState :=
  match r.pending with
  | some (s, none) => .ok { r with pending := some (s, some t) }
  | _ => .error (.unexpectedArgument t)

/-- Takes a switch without a value; none asks for the version. -/
def withSwitch (r : ReadState) (s : Switch) : Except ArgumentFault (Option ReadState) :=
  if s = .version then r.settle.map fun _ => none
  else if s.takesValue then (r.expect s).map some
  else r.withFlag.map some

/-- A value behind a letter, without an equals sign at its start. -/
def attached : Text → Text
  | '=' :: value => value
  | value => value

/-- Takes what an argument looks like; none asks for the version. -/
def next (r : ReadState) : Token → Except ArgumentFault (Option ReadState)
  | .terminator => .ok (some r)
  | .long name value =>
    match Switch.ofName? name, value with
    | none, _ => .error (.unexpectedArgument ("--" ++ name))
    | some s, none => r.withSwitch s
    | some s, some value =>
      if s.takesValue then (r.withValue s value).map some
      else .error (.unexpectedValue s value)
  | .short letter rest =>
    match Switch.ofLetter? letter with
    | none => .error (.unexpectedArgument ['-', letter])
    | some s =>
      if s.takesValue && !rest.isEmpty then (r.withValue s (attached rest)).map some
      else r.withSwitch s
  | .word t => (r.withWord t).map some

end ReadState

/-- What arguments ask for behind others. Behind the terminator no argument is expected. -/
def Request.from (r : ReadState) : (arguments : List Text) → Except ArgumentFault Request
  | [] => r.settle.map .generate
  | t :: ts =>
    match Token.ofArgument t, ts with
    | .terminator, u :: _ => .error (.unexpectedArgument u)
    | token, _ =>
      match r.next token with
      | .error fault => .error fault
      | .ok none => .ok .version
      | .ok (some r') => Request.from r' ts

/-- What arguments ask for. -/
def Request.ofArguments (arguments : List Text) : Except ArgumentFault Request :=
  Request.from {} arguments

end SchemaTypes.CommandLine
