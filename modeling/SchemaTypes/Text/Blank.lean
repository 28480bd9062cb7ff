import SchemaTypes.Text.Range

/-!
# Blank characters

A character is blank if it has the property White_Space.

* `isBlank`: the property.
* `trimStart`, `trimEnd`, `trim`: a text without the blanks at its start, its end or both.
-/

namespace SchemaTypes.Text

/-- The ranges of the property White_Space. -/
def blankRanges : List CharRange := ranges [
    (9, 0xD), (0x20, 0x20), (0x85, 0x85), (0xA0, 0xA0), (0x1680, 0x1680), (0x2000, 0x200A),
    (0x2028, 0x2029), (0x202F, 0x202F), (0x205F, 0x205F), (0x3000, 0x3000)]

/-- Is the character blank? -/
def isBlank (c : Char) : Bool :=
  inRanges blankRanges c

/-- The text from its first character that is not blank. -/
def trimStart (t : Text) : Text :=
  t.dropWhile isBlank

/-- The text up to its last character that is not blank. -/
def trimEnd (t : Text) : Text :=
  (t.reverse.dropWhile isBlank).reverse

/-- The text between its first and its last character that is not blank. -/
def trim (t : Text) : Text :=
  trimEnd (trimStart t)

end SchemaTypes.Text
