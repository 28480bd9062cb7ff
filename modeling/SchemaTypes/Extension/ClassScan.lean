import SchemaTypes.Extension.ClassHeader

/-!
# Classes in code

Code is read once from left to right. Characters in string literals and comments count for
nothing; the others open and close braces. A class header counts at the start of a line outside
all braces while no other header waits for its body, and the next brace opens the body.

* `Zone`: is a character code, or part of a literal or a comment?
* `ClassSpan`: where a class stands.
* `ClassFault`: why the classes of a code cannot be told.
* `scanFrom`: goes through the characters.
* **`scanClasses`**: the classes of a code outside all braces, in order.
-/

namespace SchemaTypes

/-! ## Literals and comments -/

/-- What the next character is part of. -/
inductive Zone where
  | code
  | literal (quote : Char)
  | escaped (quote : Char)
  | lineComment
  -- the second character of the mark that opens a comment
  | blockOpening
  | block
  -- the second character of the mark that closes a comment
  | blockClosing
deriving DecidableEq, Repr

/-- Does the character open a literal? -/
def isQuote (c : Char) : Bool :=
  c = '"' || c = '\'' || c = '`'

namespace Zone

/-- Is a character in the zone code? The line feed behind a comment is. -/
def isCode (z : Zone) (c : Char) : Bool :=
  z = code || (z = lineComment && c = '\n')

/-- The zone behind a character, given the text behind it. -/
def after (z : Zone) (c : Char) (rest : Text) : Zone :=
  match z with
  | code =>
    if isQuote c then literal c
    else if c = '/' ∧ rest.head? = some '/' then lineComment
    else if c = '/' ∧ rest.head? = some '*' then blockOpening
    else code
  | literal q => if c = '\\' then escaped q else if c = q then code else literal q
  | escaped q => literal q
  | lineComment => if c = '\n' then code else lineComment
  | blockOpening => block
  | block => if c = '*' ∧ rest.head? = some '/' then blockClosing else block
  | blockClosing => code

end Zone

/-! ## Classes -/

/-- Where a class stands, in characters from the start of the code. -/
structure ClassSpan where
  name : Text
  start : Nat
  bodyStart : Nat
  -- before the brace that closes the body
  bodyStop : Nat
deriving DecidableEq, Repr

/-- Behind the brace that closes the body. -/
def ClassSpan.stop (s : ClassSpan) : Nat :=
  s.bodyStop + 1

/-- Why the classes of a code cannot be told. -/
inductive ClassFault where
  | missingBody (name : Text)
  | unbalancedBraces (name : Text)
  -- a brace is closed that has not been opened; its place counts in bytes
  | strayClosingBrace (offset : Nat)
deriving DecidableEq, Repr

/-- The wording of a fault. -/
def ClassFault.message : ClassFault → Text
  | missingBody name => "class " ++ name ++ " has no body"
  | unbalancedBraces name => "class " ++ name ++ " has unbalanced braces"
  | strayClosingBrace offset =>
    "closing brace without opening brace at byte " ++ Text.decimal offset

/-- A class whose header has been seen, or whose body has been opened. -/
inductive OpenClass where
  | none
  | waiting (name : Text) (start : Nat)
  | opened (name : Text) (start bodyStart : Nat)
deriving DecidableEq, Repr

/-- What the characters so far have opened. -/
structure ScanState where
  zone : Zone := .code
  depth : Nat := 0
  atLineStart : Bool := true
  current : OpenClass := .none
deriving DecidableEq, Repr

namespace ScanState

/-- Notes the class whose header stands in front of a text. -/
def noteHeader (s : ScanState) (position : Nat) (t : Text) : ScanState :=
  if s.zone = .code ∧ s.atLineStart ∧ s.depth = 0 ∧ s.current = .none then
    match classHeader? t with
    | some name => { s with current := .waiting name position }
    | none => s
  else s

/-- Opens a brace at a position; outside all braces it opens the body of a waiting class. -/
def openBrace (s : ScanState) (position : Nat) : ScanState :=
  match s.depth, s.current with
  | 0, .waiting name start =>
    { s with depth := 1, current := .opened name start (position + 1) }
  | d, _ => { s with depth := d + 1 }

/-- Closes a brace at a position, and with it the class whose body it ends. -/
def closeBrace (s : ScanState) (position : Nat) : ScanState × Option ClassSpan :=
  match s.depth, s.current with
  | 1, .opened name start bodyStart =>
    ({ s with depth := 0, current := .none }, some ⟨name, start, bodyStart, position⟩)
  | d, _ => ({ s with depth := d - 1 }, none)

/-- Goes past a character to the zone behind it. -/
def advance (s : ScanState) (c : Char) (rest : Text) : ScanState :=
  { s with zone := s.zone.after c rest, atLineStart := s.zone.isCode c && c = '\n' }

end ScanState

/-- The classes that end in a text, given what the characters before it have opened and how many
they are. -/
def scanFrom (s : ScanState) (position : Nat) : Text → Except ClassFault (List ClassSpan)
  | [] =>
    match s.current with
    | .opened name _ _ => .error (.unbalancedBraces name)
    | .waiting name _ => .error (.missingBody name)
    | .none => .ok []
  | c :: rest =>
    let s := s.noteHeader position (c :: rest)
    if s.zone.isCode c ∧ c = '\x7b' then
      scanFrom ((s.openBrace position).advance c rest) (position + 1) rest
    else if s.zone.isCode c ∧ c = '\x7d' then
      if s.depth = 0 then .error (.strayClosingBrace position)
      else
        let (s, span?) := s.closeBrace position
        (scanFrom (s.advance c rest) (position + 1) rest).map (span?.toList ++ ·)
    else scanFrom (s.advance c rest) (position + 1) rest

/-- The classes of a code outside all braces, in order. -/
def scanClasses (code : Text) : Except ClassFault (List ClassSpan) :=
  match scanFrom {} 0 code with
  | .error (.strayClosingBrace position) =>
    .error (.strayClosingBrace (Text.byteLength (code.take position)))
  | result => result

end SchemaTypes
