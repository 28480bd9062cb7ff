import SchemaTypes.Json.Literal
import SchemaTypes.Json.Numeral

/-!
# Documents

* `Json.reader`: reads any value. Its argument bounds the nesting of containers.
* `stringReader`, `boolReader`, `optional`, `listReader`, `tableReader`: read values of a known
  shape and refuse others.
* **`readDocument`**: reads a whole text, behind whose value only blanks may follow.
-/

namespace SchemaTypes.Json

variable {α : Type}

/-! ## Contents behind an opening bracket -/

/-- Takes the items of a list and its end off the front of a text. -/
def listBody (item : Reader α) (input : Text) : Except Fault (Parsed (List α) (input.length + 1)) :=
  do
  let vs ← items item true input
  have hvs := vs.short
  let e ← listEnd vs.rest
  have he := e.short
  return { value := vs.value, rest := e.rest, short := by omega }

/-- Every key is taken; its value gives way to that of a later member with the same key. -/
def tableMember (value : Reader α) : MemberReader (Table α) := fun t key =>
  .ok fun input => (value input).map (·.map (Table.insert key · t))

/-- Takes the members of an object and its end off the front of a text. -/
def tableBody (value : Reader α) (input : Text) :
    Except Fault (Parsed (Table α) (input.length + 1)) :=
  (members stringRest (tableMember value) [] true input).map .succ

/-- Takes a number off the front of a text. -/
def numberFrom (input : Text) : Except Fault (Parsed Number input.length) := do
  let n ← numeral .endInValue input
  let v ← n.value.number n.rest
  return n.map fun _ => v

/-- May a number begin with the character? -/
def startsNumber (c : Char) : Bool :=
  c = '-' || c.isDigit

/-! ## Values -/

/-- Reads a value. What the containers in it hold is read by `inner`; without it no container is
allowed. -/
def valueReader (inner : Option (Reader Json)) : Reader Json := fun input =>
  match next? input with
  | none => .error (.before [] .endInValue)
  | some p =>
    match p.value, inner with
    | 'n', _ => (word "ull" p.rest).map fun q => p.behind (q.map fun _ => null)
    | 't', _ => (word "rue" p.rest).map fun q => p.behind (q.map fun _ => bool true)
    | 'f', _ => (word "alse" p.rest).map fun q => p.behind (q.map fun _ => bool false)
    | '"', _ => (stringRest p.rest).map fun q => p.after (q.map string)
    | '[', some item => (listBody item p.rest).map fun q => p.behind (q.map array)
    | '\x7b', some value => (tableBody value p.rest).map fun q => p.behind (q.map object)
    | '[', none => .error (.inside p.from .tooDeep)
    | '\x7b', none => .error (.inside p.from .tooDeep)
    | c, _ =>
      if startsNumber c then (numberFrom p.from).map fun q => p.including (q.map number)
      else .error (.inside p.from .expectedValue)

/-- Reads a value whose containers are nested at most `levels` deep. -/
def reader : (levels : Nat) → Reader Json
  | 0 => valueReader none
  | levels + 1 => valueReader (some (reader levels))

/-! ## Values of a known shape -/

/-- What a value is that has another shape than the expected one, and the text behind as much of
it as has to be read to tell. -/
def foundFrom {n : Nat} (p : Parsed Char n) : Except Fault (Found × Text) :=
  match p.value with
  | 'n' => (word "ull" p.rest).map fun q => (.null, q.rest)
  | 't' => (word "rue" p.rest).map fun q => (.bool true, q.rest)
  | 'f' => (word "alse" p.rest).map fun q => (.bool false, q.rest)
  | '"' => (stringRest p.rest).map fun q => (.string q.value, q.rest)
  | '[' => .ok (.sequence, p.from)
  | '\x7b' => .ok (.map, p.from)
  | c =>
    if startsNumber c then (numberFrom p.from).map fun q => (.number q.value, q.rest)
    else .error (.inside p.from .expectedValue)

/-- The fault of a value that has another shape than the expected one. -/
def mismatch (expected : Text) {n : Nat} (p : Parsed Char n) : Fault :=
  match foundFrom p with
  | .error f => f
  | .ok (found, rest) => .before rest (.invalidType found expected)

/-- Reads a value that begins with a certain character and is otherwise refused. -/
def expecting (expected : Text)
    (value? : {n : Nat} → (p : Parsed Char n) →
      Option (Except Fault (Parsed α (p.rest.length + 1)))) :
    Reader α := fun input =>
  match next? input with
  | none => .error (.before [] .endInValue)
  | some p =>
    match value? p with
    | some result => result.map p.behind
    | none => .error (mismatch expected p)

/-- Reads a string; `expected` says in a fault what is expected. -/
def stringReader (expected : Text) : Reader Text :=
  expecting expected fun p =>
    if p.value = '"' then some ((stringRest p.rest).map .succ) else none

/-- Reads a truth value. -/
def boolReader : Reader Bool :=
  expecting "a boolean" fun p =>
    if p.value = 't' then some ((word "rue" p.rest).map (·.map fun _ => true))
    else if p.value = 'f' then some ((word "alse" p.rest).map (·.map fun _ => false))
    else none

/-- Reads a value that may be `null`. -/
def optional (value : Reader α) : Reader (Option α) := fun input =>
  match next? input with
  | some p =>
    if p.value = 'n' then (word "ull" p.rest).map fun q => p.behind (q.map fun _ => none)
    else (value input).map (·.map some)
  | none => (value input).map (·.map some)

/-- The contents of a container, which is too deep if it is not said how to read them. -/
def contents {ι : Type} {n : Nat} (p : Parsed Char n) (inner : Option ι)
    (body : ι → (input : Text) → Except Fault (Parsed α (input.length + 1))) :
    Except Fault (Parsed α (p.rest.length + 1)) :=
  match inner with
  | none => .error (.inside p.from .tooDeep)
  | some i => body i p.rest

/-- Reads a list. Without a reader of its items no list is allowed. -/
def listReader (item : Option (Reader α)) : Reader (List α) :=
  expecting "a sequence" fun p =>
    if p.value = '[' then some (contents p item listBody) else none

/-- Reads an object whose values all are read alike. Without a reader of these no object is allowed.
-/
def tableReader (value : Option (Reader α)) : Reader (Table α) :=
  expecting "a map" fun p =>
    if p.value = '\x7b' then some (contents p value tableBody) else none

/-! ## Whole texts -/

/-- Reads a text that holds one value and blanks around it. -/
def readDocument (value : Reader α) (text : Text) : Except Fault α := do
  let p ← value text
  match next? p.rest with
  | none => return p.value
  | some q => throw (.inside q.from .trailingCharacters)

/-- The deepest nesting of containers that is read. -/
def nestingLimit : Nat := 127

end SchemaTypes.Json
