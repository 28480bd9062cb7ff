import SchemaTypes.Json.Reader

/-!
# String literals

* `hexUnit`: the 16-bit unit that four hexadecimal digits give.
* `unicodeEscape`: the character of one such unit or of a surrogate pair.
* **`stringRest`**: takes the rest of a string literal off the front of a text.
* `stringSkip`: passes over it. Passing over a literal does not look at surrogates.
-/

namespace SchemaTypes.Json

/-! ## Escapes -/

/-- The characters that stand for another behind a backslash. -/
def simpleEscape? : Char → Option Char
  | '"' => some '"'
  | '\\' => some '\\'
  | '/' => some '/'
  | 'b' => some '\x08'
  | 'f' => some '\x0c'
  | 'n' => some '\n'
  | 'r' => some '\r'
  | 't' => some '\t'
  | _ => none

/-- The value of hexadecimal digits, if all are digits. -/
def hexNumber? (ds : Text) : Option Nat :=
  ds.foldlM (fun n d => (Text.hexValue? d).map (n * 16 + ·)) 0

/-- The four digits of a 16-bit unit. A text of fewer than four bytes ends in the literal; a
fault in the digits lies behind the fourth byte. -/
def hexUnit (input : Text) : Except Fault (Parsed Nat (input.length + 1)) :=
  if Text.byteLength input < 4 then .error (.before [] .endInString)
  else match hexNumber? (input.take 4) with
    | some n => .ok (.drop n 4 input)
    | none => .error ⟨.invalidEscape, Text.byteLength input - 4⟩

/-- Is the unit the first of a surrogate pair? -/
def isLeading (unit : Nat) : Bool :=
  0xD800 ≤ unit && unit < 0xDC00

/-- Is the unit the second of a surrogate pair? -/
def isTrailing (unit : Nat) : Bool :=
  0xDC00 ≤ unit && unit < 0xE000

/-- Takes a character off the front of a text in which the second unit of a pair must come. -/
def pairMark (c : Char) : (input : Text) → Except Fault (Parsed Unit input.length)
  | [] => .error (.before [] .endInString)
  | d :: r =>
    if d = c then .ok (.start () r)
    else .error (.inside (d :: r) .unfinishedSurrogate)

/-- The character of an escape by code units, whose backslash and mark have been taken off. -/
def unicodeEscape (input : Text) : Except Fault (Parsed Char (input.length + 1)) := do
  let u ← hexUnit input
  have hu := u.short
  if isTrailing u.value then throw (.before u.rest .loneSurrogate)
  if isLeading u.value then
    let b ← pairMark '\\' u.rest
    have hb := b.short
    let m ← pairMark 'u' b.rest
    have hm := m.short
    let v ← hexUnit m.rest
    have hv := v.short
    if isTrailing v.value then
      let code := 0x10000 + (u.value - 0xD800) * 0x400 + (v.value - 0xDC00)
      return { value := Char.ofNat code, rest := v.rest, short := by omega }
    else throw (.before v.rest .loneSurrogate)
  else return u.map Char.ofNat

/-- The character of an escape, whose backslash has been taken off. -/
def escape (input : Text) : Except Fault (Parsed Char input.length) :=
  match input with
  | [] => .error (.before [] .endInString)
  | 'u' :: r => unicodeEscape r
  | c :: r =>
    match simpleEscape? c with
    | some d => .ok (.start d r)
    | none => .error (.inside (c :: r) .invalidEscape)

/-! ## Literals -/

/-- Takes the rest of a string literal, behind its opening quote, off the front of a text. -/
def stringRest (input : Text) : Except Fault (Parsed Text input.length) :=
  match input with
  | [] => .error (.before [] .endInString)
  | '"' :: r => .ok (.start [] r)
  | '\\' :: r => do
    let e ← escape r
    have := e.short
    let t ← stringRest e.rest
    return (e.after (t.map (e.value :: ·))).succ
  | c :: r => do
    if c.toNat < 0x20 then throw (.inside (c :: r) .controlCharacter)
    let t ← stringRest r
    return (t.map (c :: ·)).succ
termination_by input.length

/-- Passes over an escape, whose backslash has been taken off. -/
def escapeSkip (input : Text) : Except Fault (Parsed Unit input.length) :=
  match input with
  | [] => .error (.before [] .endInString)
  | 'u' :: r => (hexUnit r).map (·.map fun _ => ())
  | c :: r =>
    match simpleEscape? c with
    | some _ => .ok (.start () r)
    | none => .error (.inside (c :: r) .invalidEscape)

/-- Passes over the rest of a string literal, behind its opening quote. -/
def stringSkip (input : Text) : Except Fault (Parsed Unit input.length) :=
  match input with
  | [] => .error (.before [] .endInString)
  | '"' :: r => .ok (.start () r)
  | '\\' :: r => do
    let e ← escapeSkip r
    have := e.short
    let t ← stringSkip e.rest
    return (e.after t).succ
  | c :: r => do
    if c.toNat < 0x20 then throw (.before (c :: r) .controlCharacter)
    let t ← stringSkip r
    return t.succ
termination_by input.length

end SchemaTypes.Json
