import SchemaTypes.Json.Literal
import SchemaTypes.Json.Numeral

/-!
# Skipped values

The value of a member that nobody asks for is passed over. It has to be well formed, but it may be
nested to any depth, and its strings and numbers are not evaluated.

* `Enclosing`: the kinds of containers around a position.
* **`skipValue`**: passes over a value.
-/

namespace SchemaTypes.Json

/-- The kinds of containers. -/
inductive Enclosing where
  | list
  | object
deriving DecidableEq, Repr

/-- The bracket that closes a container. -/
def Enclosing.close : Enclosing → Char
  | list => ']'
  | object => '\x7d'

/-- The cause of a fault if the text ends in a container. -/
def Enclosing.atEnd : Enclosing → Cause
  | list => .endInList
  | object => .endInObject

/-- The cause of a fault if neither a comma nor the end of a container comes. -/
def Enclosing.expected : Enclosing → Cause
  | list => .expectedListCommaOrEnd
  | object => .expectedObjectCommaOrEnd

/-- Passes over what stands in front of a value in a container: a key and a colon in an object,
nothing in a list. -/
def keySkip : Enclosing → (input : Text) → Except Fault (Parsed Unit (input.length + 1))
  | .list, input => .ok (.start () input)
  | .object, input =>
    match next? input with
    | none => .error (.before [] .endInObject)
    | some p => do
      if p.value ≠ '"' then throw (.inside p.from .keyNotString)
      let k ← stringSkip p.rest
      let c ← colon k.rest
      return (p.after (k.after c)).succ

/-- What a value begins with: a scalar, which is passed over, or the bracket of a container. -/
def headSkip (input : Text) : Except Fault (Parsed (Option Enclosing) input.length) :=
  match next? input with
  | none => .error (.before [] .endInValue)
  | some p =>
    match p.value with
    | 'n' => (word "ull" p.rest).map fun q => p.behind (q.map fun _ => none)
    | 't' => (word "rue" p.rest).map fun q => p.behind (q.map fun _ => none)
    | 'f' => (word "alse" p.rest).map fun q => p.behind (q.map fun _ => none)
    | '"' => (stringSkip p.rest).map fun q => p.after (q.map fun _ => none)
    | '[' => .ok (p.map fun _ => some .list)
    | '\x7b' => .ok (p.map fun _ => some .object)
    | c =>
      if c = '-' ∨ c.isDigit then
        (numeral .invalidNumber p.from).map fun q => p.including (q.map fun _ => none)
      else .error (.inside p.from .expectedValue)

/-- Passes over the ends of containers and, if one is still open, over the comma behind them.
Right behind an opening bracket there need not be a comma: then nothing is passed over unless the
container is empty. Returns the containers that are still open. -/
def endSkip (afterBracket : Bool) : (stack : List Enclosing) → (input : Text) →
    Except Fault (Parsed (List Enclosing) (input.length + 1))
  | [], input => .ok (.start [] input)
  | e :: stack, input =>
    match next? input with
    | none => .error (.before [] e.atEnd)
    | some p =>
      if p.value = e.close then
        (endSkip false stack p.rest).map fun q => (p.behind q).succ
      else if afterBracket then .ok ⟨e :: stack, p.from, Nat.lt_succ_of_le p.short⟩
      else if p.value = ',' then .ok ⟨e :: stack, p.rest, Nat.lt_succ_of_lt p.short⟩
      else .error (.inside p.from e.expected)

/-- Passes over a value and over all that follows in the containers around it. -/
def skipFrom (stack : List Enclosing) (input : Text) : Except Fault (Parsed Unit input.length) := do
  let h ← headSkip input
  have hh := h.short
  let s ← match h.value with
    | some e => endSkip true (e :: stack) h.rest
    | none => endSkip false stack h.rest
  have hs := s.short
  match s.value with
  | [] => return { value := (), rest := s.rest, short := by omega }
  | e :: stack =>
    let k ← keySkip e s.rest
    have hk := k.short
    let r ← skipFrom (e :: stack) k.rest
    have hr := r.short
    return { value := (), rest := r.rest, short := by omega }
termination_by input.length

/-- Passes over a value. -/
def skipValue : Reader Unit :=
  skipFrom []

end SchemaTypes.Json
