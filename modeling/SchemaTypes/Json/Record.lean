import SchemaTypes.Json.Document
import SchemaTypes.Json.Skip

/-!
# Records

A record is a value with named fields. It is written as an object, whose members are the fields in
any order, or as a list of the fields in their order.

* `Record`: the fields of a record and how each is read.
* `Record.reader`: reads a record in either form. No field may be given twice.
-/

namespace SchemaTypes.Json

/-- The fields `κ` of a record with values in `σ`. -/
structure Record (κ σ : Type) where
  fields : List κ
  key : κ → Text
  field : κ → σ → Reader σ
  -- refuses members that are no fields and lists that lack a field, which otherwise are passed
  -- over and left as they are; the text names the record in a fault
  strict : Option Text

namespace Record

variable {κ σ : Type} [DecidableEq κ]

/-- Reads the value of a member into a record with the fields that have been given so far. -/
def member (r : Record κ σ) : MemberReader (σ × List κ) := fun (s, given) key =>
  match r.fields.find? fun k => r.key k = key with
  | some k =>
    if k ∈ given then .error (.duplicateField key)
    else .ok fun input => (r.field k s input).map (·.map (·, k :: given))
  | none =>
    if r.strict.isSome then .error (.unknownField key (r.fields.map r.key))
    else .ok fun input => (skipValue input).map (·.map fun _ => (s, given))

/-- Reads the fields of a list into a record; `count` fields have been given. -/
def positional (r : Record κ σ) (count : Nat) (s : σ) : (fields : List κ) → (input : Text) →
    Except Fault (Parsed σ (input.length + 1))
  | [], input => .ok (.start s input)
  | k :: ks, input => do
    match ← itemAhead (count = 0) input with
    | none =>
      match r.strict with
      | some name => throw (.before (skipEnd ']' input) (.invalidLength count name))
      | none => return .start s input
    | some ⟨t, ht⟩ =>
      let v ← r.field k s t
      have hv := v.short
      let p ← r.positional (count + 1) v.value ks v.rest
      have hp := p.short
      return { value := p.value, rest := p.rest, short := by omega }

/-- Takes the members of a record and the end of the object off the front of a text. -/
def objectBody (start : σ) (r : Record κ σ) (input : Text) :
    Except Fault (Parsed σ (input.length + 1)) :=
  (members stringRest r.member (start, []) true input).map fun p =>
    (p.map Prod.fst).succ

/-- Takes the fields of a record and the end of the list off the front of a text. -/
def listBody (start : σ) (r : Record κ σ) (input : Text) :
    Except Fault (Parsed σ (input.length + 1)) := do
  let p ← r.positional 0 start r.fields input
  have hp := p.short
  let e ← listEnd p.rest
  have he := e.short
  return { value := p.value, rest := e.rest, short := by omega }

/-- Reads a record in either form, starting from the record whose fields all are absent. -/
def reader (expected : Text) (start : σ) (r : Option (Record κ σ)) : Reader σ :=
  expecting expected fun p =>
    if p.value = '\x7b' then some (contents p r (objectBody start))
    else if p.value = '[' then some (contents p r (listBody start))
    else none

end Record

end SchemaTypes.Json
