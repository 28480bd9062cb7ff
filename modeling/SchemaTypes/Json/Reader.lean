import SchemaTypes.Json.Fault

/-!
# Readers

A reader takes a value off the front of a text and returns what is left, which is shorter. The
proof of that comes with the result, so that a loop over readers ends.

* `Parsed`: a value with the rest of the text and a bound on its length.
* `Parsed.drop`, `Parsed.after`, `Parsed.including`: results for texts, and made from others.
* `Reader`: a function from a text to a parsed value or a fault.
* `next?`: the first character that is not blank.
* `itemAhead`, `keyAhead`: is there another item or member in front of the end of its container?
* `items`, `members`: all items or members up to the end.
* `listEnd`: the end of a list.
-/

namespace SchemaTypes.Json

/-- A value and the rest of the text, which is shorter than the bound. -/
structure Parsed (α : Type) (bound : Nat) where
  value : α
  rest : Text
  short : rest.length < bound

namespace Parsed

variable {α β : Type} {m n : Nat}

/-- The same result under a larger bound. -/
def weaken (p : Parsed α m) (h : m ≤ n) : Parsed α n :=
  { value := p.value, rest := p.rest, short := Nat.lt_of_lt_of_le p.short h }

/-- The same result under the next bound. -/
def succ (p : Parsed α n) : Parsed α (n + 1) :=
  p.weaken (Nat.le_succ n)

/-- The result with a value made from its own. -/
def map (f : α → β) (p : Parsed α n) : Parsed β n :=
  { value := f p.value, rest := p.rest, short := p.short }

/-- A value with all of a text left. -/
def start (value : α) (input : Text) : Parsed α (input.length + 1) :=
  { value := value, rest := input, short := Nat.lt_succ_self _ }

/-- A value for the first characters of a text. -/
def drop (value : α) (count : Nat) (input : Text) : Parsed α (input.length + 1) :=
  { value := value, rest := input.drop count, short := Nat.lt_succ_of_le (by simp) }

/-- A result for what another one left, which took something off. -/
def after (p : Parsed α n) (q : Parsed β p.rest.length) : Parsed β n :=
  q.weaken (Nat.le_of_lt p.short)

/-- A result for what another one left, which need not have taken anything off. -/
def behind (p : Parsed α n) (q : Parsed β (p.rest.length + 1)) : Parsed β n :=
  q.weaken p.short

end Parsed

/-- Takes a value off the front of a text. -/
abbrev Reader (α : Type) := (input : Text) → Except Fault (Parsed α input.length)

/-! ## Blanks -/

/-- The blanks that may stand between the parts of a document. -/
def isBlank (c : Char) : Bool :=
  c = ' ' || c = '\n' || c = '\t' || c = '\r'

/-- The text from its first character that is not blank. -/
def skipBlanks (t : Text) : Text :=
  t.dropWhile isBlank

theorem length_skipBlanks_le (t : Text) : (skipBlanks t).length ≤ t.length :=
  (List.dropWhile_suffix isBlank).length_le

/-- The first character that is not blank and the text behind it. -/
def next? (input : Text) : Option (Parsed Char input.length) :=
  match h : skipBlanks input with
  | [] => none
  | c :: r =>
    have := length_skipBlanks_le input
    some { value := c, rest := r, short := by rw [h] at this; exact this }

/-- The text from its first character that is not blank, given that character. -/
def Parsed.from {n : Nat} (p : Parsed Char n) : Text :=
  p.value :: p.rest

/-- A result for the text from the first character on. -/
def Parsed.including {α : Type} {n : Nat} (p : Parsed Char n) (q : Parsed α p.from.length) :
    Parsed α n :=
  q.weaken p.short

/-- The text behind the blanks and the closing bracket, if it comes next. -/
def skipEnd (close : Char) (t : Text) : Text :=
  match skipBlanks t with
  | [] => []
  | c :: r => if c = close then r else c :: r

/-! ## Words -/

/-- Takes the rest of a word off the front of a text. -/
def word : (letters input : Text) → Except Fault (Parsed Unit (input.length + 1))
  | [], input => .ok (.start () input)
  | _ :: _, [] => .error (.before [] .endInValue)
  | l :: ls, c :: r =>
    if c = l then (word ls r).map .succ
    else .error (.inside (c :: r) .expectedWord)

/-! ## What lies ahead in a container -/

/-- The text from the next item of a list, or nothing in front of the end of the list. Before
any item but the first there is a comma. -/
def itemAhead (first : Bool) (input : Text) :
    Except Fault (Option { t : Text // t.length ≤ input.length }) :=
  match next? input with
  | none => .error (.before [] .endInList)
  | some p =>
    if p.value = ']' then .ok none
    else if first then .ok (some ⟨p.from, p.short⟩)
    else if p.value = ',' then
      match next? p.rest with
      | none => .error (.before [] .endInValue)
      | some q =>
        if q.value = ']' then .error (.inside q.from .trailingComma)
        else .ok (some ⟨q.from, Nat.le_of_lt (Nat.lt_of_le_of_lt q.short p.short)⟩)
    else .error (.inside p.from .expectedListCommaOrEnd)

/-- What comes next in an object: a key, with the text behind its opening quote, or the end of the
object, with the text behind it. -/
inductive Ahead (bound : Nat) where
  | key (text : Text) (short : text.length < bound)
  | done (rest : Text) (short : rest.length < bound)

/-- What comes next in an object. Before any member but the first there is a comma. -/
def keyAhead (first : Bool) (input : Text) : Except Fault (Ahead input.length) :=
  match next? input with
  | none => .error (.before [] .endInObject)
  | some p =>
    if p.value = '\x7d' then .ok (.done p.rest p.short)
    else if first then
      if p.value = '"' then .ok (.key p.rest p.short)
      else .error (.inside p.from .keyNotString)
    else if p.value = ',' then
      match next? p.rest with
      | none => .error (.before [] .endInValue)
      | some q =>
        if q.value = '"' then .ok (.key q.rest (Nat.lt_trans q.short p.short))
        else if q.value = '\x7d' then .error (.inside q.from .trailingComma)
        else .error (.inside q.from .keyNotString)
    else .error (.inside p.from .expectedObjectCommaOrEnd)

/-- Takes the colon between a key and its value off the front of a text. -/
def colon (input : Text) : Except Fault (Parsed Unit input.length) :=
  match next? input with
  | none => .error (.before [] .endInObject)
  | some p =>
    if p.value = ':' then .ok (p.map fun _ => ())
    else .error (.inside p.from .expectedColon)

/-- Takes the end of a list off the front of a text. -/
def listEnd (input : Text) : Except Fault (Parsed Unit input.length) :=
  match next? input with
  | none => .error (.before [] .endInList)
  | some p =>
    if p.value = ']' then .ok (p.map fun _ => ())
    else if p.value = ',' then
      match next? p.rest with
      | some q =>
        .error (.inside q.from (if q.value = ']' then .trailingComma else .trailingCharacters))
      | none => .error (.before [] .trailingCharacters)
    else .error (.inside p.from .trailingCharacters)

/-! ## Contents of containers -/

section Contents

variable {α σ : Type}

/-- The items of a list up to its end, and the text from its end. -/
def items (item : Reader α) (first : Bool) (input : Text) :
    Except Fault (Parsed (List α) (input.length + 1)) := do
  match ← itemAhead first input with
  | none => return .start [] input
  | some ⟨t, ht⟩ =>
    let v ← item t
    have hv := v.short
    let vs ← items item false v.rest
    have hvs := vs.short
    return { value := v.value :: vs.value, rest := vs.rest, short := by omega }
termination_by input.length

/-- How an object is read: each key, with what the members before it gave, either is refused or
has a reader for its value. -/
abbrev MemberReader (σ : Type) := (state : σ) → (key : Text) → Except Cause (Reader σ)

/-- Goes through the members of an object up to its end and takes the end off. A key that is
refused is reported behind the end of the object if that comes right after the key. -/
def members (key : Reader Text) (member : MemberReader σ) (state : σ) (first : Bool)
    (input : Text) : Except Fault (Parsed σ input.length) := do
  match ← keyAhead first input with
  | .done rest h => return { value := state, rest := rest, short := h }
  | .key t ht =>
    let k ← key t
    have hk := k.short
    match member state k.value with
    | .error cause => throw (.before (skipEnd '\x7d' k.rest) cause)
    | .ok value =>
      let c ← colon k.rest
      have hc := c.short
      let v ← value c.rest
      have hv := v.short
      let s ← members key member v.value false v.rest
      have hs := s.short
      return { value := s.value, rest := s.rest, short := by omega }
termination_by input.length

end Contents

end SchemaTypes.Json
