/-!
# Text

Text is a list of characters, so every rule of the library is a recursion over characters.
Strings appear only as literals and where a program reads or writes.

* `Text.byteLength`, `Text.utf8`: the measure of a text in UTF-8 bytes and the bytes themselves.
* `Text.lines`, `Text.inclusiveLines`: a text cut at its line feeds, without and with them.
* `Text.replaceAll`: the non-overlapping replacement of a pattern, from left to right.
* `Text.decimal`: a natural number in decimal digits.
-/

namespace SchemaTypes

/-- A text is the list of its characters. -/
abbrev Text := List Char

namespace Text

/-- The characters of a string. The definition is kept folded, so that a literal in a statement
stays one; `ofString_eq` opens it. -/
@[irreducible] def ofString (s : String) : Text :=
  s.toList

theorem ofString_eq (s : String) : ofString s = s.toList := by
  rw [ofString]

end Text

instance : Coe String Text := ⟨Text.ofString⟩

namespace Text

/-! ## Bytes -/

/-- The number of bytes of a text. -/
def byteLength : Text → Nat
  | [] => 0
  | c :: t => c.utf8Size + byteLength t

/-- The bytes of a text. -/
def utf8 (t : Text) : List UInt8 :=
  t.flatMap String.utf8EncodeChar

/-- The text whose UTF-8 form the bytes are, if they are one. -/
def ofUtf8? (bytes : List UInt8) : Option Text :=
  (ByteArray.mk bytes.toArray).utf8Decode?.map Array.toList

@[simp] theorem byteLength_nil : byteLength [] = 0 := rfl

@[simp] theorem byteLength_cons (c : Char) (t : Text) :
    byteLength (c :: t) = c.utf8Size + byteLength t := rfl

@[simp] theorem byteLength_append (s t : Text) :
    byteLength (s ++ t) = byteLength s + byteLength t := by
  induction s with
  | nil => rw [List.nil_append, byteLength_nil, Nat.zero_add]
  | cons c s ih => rw [List.cons_append, byteLength_cons, byteLength_cons, ih, Nat.add_assoc]

@[simp] theorem utf8_append (s t : Text) : utf8 (s ++ t) = utf8 s ++ utf8 t := by
  simp [utf8]

/-- **The measure counts the bytes.** -/
theorem length_utf8 (t : Text) : (utf8 t).length = byteLength t := by
  induction t with
  | nil => rfl
  | cons c t ih => simp only [utf8, List.flatMap_cons, List.length_append] at *; simp [ih]

/-! ## Parts -/

/-- Does the text begin with the pattern? -/
def startsWith (t pattern : Text) : Bool :=
  pattern.isPrefixOf t

/-- Is the character the last of the text? -/
def endsWith (t : Text) (c : Char) : Bool :=
  t.getLast? == some c

/-- The pieces between the occurrences of a separator; there is always one more piece than
separators. -/
def pieces (separator : Char) : Text → List Text
  | [] => [[]]
  | c :: r =>
    if c = separator then [] :: pieces separator r
    else match pieces separator r with
      | [] => [[c]]
      | p :: ps => (c :: p) :: ps

/-- The texts in order, with the separator between neighbours. -/
def join (separator : Text) (ts : List Text) : Text :=
  separator.intercalate ts

/-! ## Lines -/

/-- The lines of a text, each with the line feed that ends it. Only the last may lack one, and it
is never empty. -/
def inclusiveLines : Text → List Text
  | [] => []
  | c :: r =>
    if c = '\n' then [c] :: inclusiveLines r
    else match inclusiveLines r with
      | [] => [[c]]
      | l :: ls => (c :: l) :: ls

/-- A line without its end, which is a line feed or a carriage return and a line feed. -/
def chompLine (line : Text) : Text :=
  match line.reverse with
  | '\n' :: '\r' :: r => r.reverse
  | '\n' :: r => r.reverse
  | _ => line

/-- The lines of a text without their ends. -/
def lines (t : Text) : List Text :=
  (inclusiveLines t).map chompLine

/-- **Cutting at line feeds loses nothing.** -/
theorem flatten_inclusiveLines (t : Text) : (inclusiveLines t).flatten = t := by
  induction t with
  | nil => rfl
  | cons c r ih =>
    rw [inclusiveLines]
    split
    · simp [ih]
    · split
      · next h => rw [h] at ih; simp at ih; simp [← ih]
      · next l ls h => rw [h] at ih; simp at ih; simp [← ih]

/-! ## Replacement -/

/-- Replaces every occurrence of the two characters `a b` by the image, from left to right. -/
def replaceAll (a b : Char) (image : Text) : Text → Text
  | [] => []
  | [c] => [c]
  | c :: d :: r =>
    if c = a ∧ d = b then image ++ replaceAll a b image r else c :: replaceAll a b image (d :: r)

/-! ## Numbers -/

/-- A natural number in decimal digits, without leading zeros. -/
def decimal (n : Nat) : Text :=
  Nat.toDigits 10 n

/-- A natural number in lowercase hexadecimal digits, without leading zeros. -/
def hexadecimal (n : Nat) : Text :=
  Nat.toDigits 16 n

/-- The value of a hexadecimal digit in either case. -/
def hexValue? (c : Char) : Option Nat :=
  if '0' ≤ c ∧ c ≤ '9' then some (c.toNat - 48)
  else if 'a' ≤ c ∧ c ≤ 'f' then some (c.toNat - 87)
  else if 'A' ≤ c ∧ c ≤ 'F' then some (c.toNat - 55)
  else none

/-! ## Letters of the Latin alphabet -/

/-- An ASCII letter in lower case; every other character is left alone. -/
def asciiLower (t : Text) : Text :=
  t.map Char.toLower

end Text

end SchemaTypes
