import SchemaTypes.Text.Basic

/-!
# Plain text

What goes to a terminal may hold controls and sequences of characters that steer the terminal.
A plain text holds neither. Line feeds, carriage returns, form feeds and tabs are plain, and so
are all characters beyond ASCII outside a sequence.

* `isPlain`: may the character stand in a plain text?
* `ControlSequence`: how far a sequence has been read.
* **`plain`**: a text without its controls and sequences.
-/

namespace SchemaTypes.Text

/-! ## Plain characters -/

/-- Is the character a control that only moves on in the text? -/
def isLayout (c : Char) : Bool :=
  c = '\t' || c = '\n' || c = '\x0c' || c = '\r'

/-- May the character stand in a plain text? -/
def isPlain (c : Char) : Bool :=
  isLayout c || (' ' ≤ c && c ≠ '\x7f')

/-- Is the character beyond ASCII? -/
def isWide (c : Char) : Bool :=
  '\x7f' < c

/-! ## Sequences -/

/-- How far a sequence that begins with an escape character has been read. -/
inductive ControlSequence where
  | outside
  | escape
  -- behind characters that put off the end of a short sequence
  | intermediate
  -- behind a bracket: up to a letter
  | control
  -- behind a closing bracket: a command, up to a bell
  | command
  | device
  | deviceParameters
  | deviceIntermediate
  | string
deriving DecidableEq, Repr

namespace ControlSequence

/-- Does the character hold the byte that ends a string? -/
def endsString (c : Char) : Bool :=
  (String.utf8EncodeChar c).contains 0x9C

/-- The state behind an escape character and a further character. -/
def opened (c : Char) : ControlSequence :=
  if c = '[' then control
  else if c = ']' then command
  else if c = 'P' then device
  else if c = 'X' ∨ c = '^' ∨ c = '_' then string
  else if '0' ≤ c ∧ c ≤ '~' then outside
  else if ' ' ≤ c ∧ c ≤ '/' then intermediate
  else escape

/-- The state behind a further character. An escape character always begins a sequence; two
controls always break one off. -/
def after (s : ControlSequence) (c : Char) : ControlSequence :=
  if c = '\x1b' then escape
  else if c = '\x18' ∨ c = '\x1a' then outside
  else match s with
  | outside => outside
  | escape => opened c
  | intermediate => if '0' ≤ c ∧ c ≤ '~' then outside else intermediate
  | control => if '@' ≤ c ∧ c ≤ '~' then outside else control
  | command => if c = '\x07' then outside else command
  | device =>
    if ' ' ≤ c ∧ c ≤ '/' then deviceIntermediate
    else if '0' ≤ c ∧ c ≤ '?' then deviceParameters
    else if '@' ≤ c ∧ c ≤ '~' then string
    else device
  | deviceParameters =>
    if ' ' ≤ c ∧ c ≤ '/' then deviceIntermediate
    else if '<' ≤ c ∧ c ≤ '~' then string
    else deviceParameters
  | deviceIntermediate => if '0' ≤ c ∧ c ≤ '~' then string else deviceIntermediate
  | string => if endsString c then outside else string

/-- Does the character stay in the text? Inside a sequence only a control that moves on does, and
none inside strings and commands. -/
def keeps (s : ControlSequence) (c : Char) : Bool :=
  match s with
  | outside => isPlain c
  | escape | intermediate | control => isLayout c
  | command | device | deviceParameters | deviceIntermediate | string => false

end ControlSequence

/-! ## Plain texts -/

/-- A text without its controls and sequences, read from within a sequence. A character that
stays interrupts the sequence: while it is `paused`, all plain characters stay. A control that is
not plain resumes the sequence, a character beyond ASCII ends it. -/
def plainFrom (s : ControlSequence) (paused : Bool) : Text → Text
  | [] => []
  | c :: r =>
    if s.keeps c || (paused && isPlain c) then
      c :: plainFrom (if isWide c then .outside else s) true r
    else plainFrom (s.after c) false r

/-- A text without its controls and sequences. -/
def plain (t : Text) : Text :=
  plainFrom .outside false t

end SchemaTypes.Text
