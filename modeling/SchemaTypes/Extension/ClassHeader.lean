import SchemaTypes.Text.Basic

/-!
# Class headers

A class is declared by a line that begins, behind spaces and tabs, with the word `class` and a
name. The words `export`, `default` and `abstract` may stand before it, in this order and each at
most once. Words are separated by spaces and tabs; letters and digits are those of ASCII.

* `word?`: a word and the space behind it, taken off the front of a text.
* **`classHeader?`**: the name that a header in front of a text declares.
-/

namespace SchemaTypes

/-! ## Characters of a header -/

/-- Does the character separate words of a header? -/
def isSpacing (c : Char) : Bool :=
  c = ' ' || c = '\t'

/-- May a name begin with the character? -/
def isNameStart (c : Char) : Bool :=
  c.isAlpha || c = '_' || c = '$'

/-- May a name go on with the character? -/
def isNamePart (c : Char) : Bool :=
  c.isAlphanum || c = '_' || c = '$'

/-! ## Headers -/

/-- A text without the spacing at its start. -/
def skipSpacing (t : Text) : Text :=
  t.dropWhile isSpacing

/-- The text behind a word and the spacing that must follow it. -/
def word? (word t : Text) : Option Text :=
  if t.startsWith word then
    match t.drop word.length with
    | c :: r => if isSpacing c then some (skipSpacing r) else none
    | [] => none
  else none

/-- The text behind a word if it is there, and otherwise the text itself. -/
def skipWord (word t : Text) : Text :=
  (word? word t).getD t

/-- The name in front of a text. -/
def name? : Text → Option Text
  | [] => none
  | c :: r => if isNameStart c then some (c :: r.takeWhile isNamePart) else none

/-- The name that a class header in front of a text declares. -/
def classHeader? (t : Text) : Option Text :=
  word? "class" (skipWord "abstract" (skipWord "default" (skipWord "export" (skipSpacing t))))
    >>= name?

end SchemaTypes
