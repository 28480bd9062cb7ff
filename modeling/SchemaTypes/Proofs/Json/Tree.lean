import SchemaTypes.Json.Document

/-!
# Documents and what is written in them

A document is a value with blanks around it. A value is told by its tree, which says what is
written but for the blanks between the parts and the spelling of characters and exponents: the
members of an object are all there and in order.

* `Literal`: what stands between the quotes of a string; `Literal.text?`: the text that it stands
  for, if there is one.
* `Numeral.Written`: a numeral as it is written.
* `Tree`: a value as it is written; `Tree.Written`: its texts.
* **`Tree.Document`**: the documents that hold a value.
-/

namespace SchemaTypes.Json

/-! ## Strings -/

/-- What a string literal is made of. -/
inductive LiteralPart where
  -- a character, as it is or behind a backslash
  | char (c : Char)
  -- the 16-bit unit of four digits
  | unit (code : Nat)
deriving DecidableEq, Repr

/-- What stands between the quotes of a string. -/
abbrev Literal := List LiteralPart

/-- The character of a surrogate pair. -/
def pairCharacter (leading trailing : Nat) : Char :=
  Char.ofNat (0x10000 + (leading - 0xD800) * 0x400 + (trailing - 0xDC00))

namespace Literal

/-- The text that a literal stands for. There is none if a surrogate is not one of a pair. -/
def text? : Literal → Option Text
  | [] => some []
  | .char c :: l => (text? l).map (c :: ·)
  | .unit u :: l =>
    if isTrailing u then none
    else if isLeading u then
      match l with
      | .unit v :: l => if isTrailing v then (text? l).map (pairCharacter u v :: ·) else none
      | _ => none
    else (text? l).map (Char.ofNat u :: ·)

/-- The ways to write a part of a literal. -/
inductive WrittenPart : LiteralPart → Text → Prop where
  | plain {c : Char} (h : 0x20 ≤ c.toNat) (hquote : c ≠ '"') (hback : c ≠ '\\') :
      WrittenPart (.char c) [c]
  | escape {e c : Char} (h : simpleEscape? e = some c) : WrittenPart (.char c) ['\\', e]
  | unit {ds : Text} {n : Nat} (hlength : ds.length = 4) (h : hexNumber? ds = some n) :
      WrittenPart (.unit n) ('\\' :: 'u' :: ds)

/-- The ways to write a literal. -/
def Written : Literal → Text → Prop
  | [], t => t = []
  | p :: l, t => ∃ x y, WrittenPart p x ∧ Written l y ∧ t = x ++ y

end Literal

/-! ## Numbers -/

/-- Digits, of which there is at least one. -/
structure IsDigits (t : Text) : Prop where
  nonempty : t ≠ []
  digits : ∀ c ∈ t, c.isDigit = true

/-- The ways to write a numeral. -/
structure Numeral.Written (n : Numeral) (t : Text) : Prop where
  whole : IsDigits n.whole
  -- no superfluous zeros
  leading : n.whole.head? = some '0' → n.whole = ['0']
  parts : ∃ fraction exponent,
    (n.fraction = [] ∧ fraction = [] ∨ IsDigits n.fraction ∧ fraction = '.' :: n.fraction) ∧
    (n.exponent = [] ∧ n.negativeExponent = false ∧ exponent = [] ∨
      IsDigits n.exponent ∧ ∃ mark sign, (mark = 'e' ∨ mark = 'E') ∧
        (n.negativeExponent = true ∧ sign = ['-'] ∨
          n.negativeExponent = false ∧ (sign = [] ∨ sign = ['+'])) ∧
        exponent = mark :: (sign ++ n.exponent)) ∧
    t = (if n.negative then ['-'] else []) ++ (n.whole ++ (fraction ++ exponent))

/-! ## Values -/

/-- Blanks between the parts of a document. -/
def Blanks (t : Text) : Prop := ∀ c ∈ t, isBlank c = true

/-- A value as it is written. -/
inductive Tree where
  | null
  | bool (value : Bool)
  | number (numeral : Numeral)
  | string (literal : Literal)
  | array (items : List Tree)
  | object (members : List (Literal × Tree))

mutual

/-- The ways to write a value. -/
def Tree.Written : Tree → Text → Prop
  | .null, t => t = "null"
  | .bool true, t => t = "true"
  | .bool false, t => t = "false"
  | .number n, t => n.Written t
  | .string l, t => ∃ body, l.Written body ∧ t = '"' :: (body ++ ['"'])
  | .array [], t => ∃ b, Blanks b ∧ t = '[' :: (b ++ [']'])
  | .array (v :: vs), t => ∃ b x c y, Blanks b ∧ v.Written x ∧ Blanks c ∧ WrittenItems vs y ∧
      t = '[' :: (b ++ (x ++ (c ++ y)))
  | .object [], t => ∃ b, Blanks b ∧ t = '\x7b' :: (b ++ ['\x7d'])
  | .object (m :: ms), t => ∃ b x c y, Blanks b ∧ WrittenMember m x ∧ Blanks c ∧
      WrittenMembers ms y ∧ t = '\x7b' :: (b ++ (x ++ (c ++ y)))

/-- The further items of an array, and its end. -/
def WrittenItems : List Tree → Text → Prop
  | [], t => t = [']']
  | v :: vs, t => ∃ b x c y, Blanks b ∧ v.Written x ∧ Blanks c ∧ WrittenItems vs y ∧
      t = ',' :: (b ++ (x ++ (c ++ y)))

/-- A key, a colon and a value. -/
def WrittenMember : Literal × Tree → Text → Prop
  | (k, v), t => ∃ body b c x, k.Written body ∧ Blanks b ∧ Blanks c ∧ v.Written x ∧
      t = '"' :: (body ++ ('"' :: (b ++ (':' :: (c ++ x)))))

/-- The further members of an object, and its end. -/
def WrittenMembers : List (Literal × Tree) → Text → Prop
  | [], t => t = ['\x7d']
  | m :: ms, t => ∃ b x c y, Blanks b ∧ WrittenMember m x ∧ Blanks c ∧ WrittenMembers ms y ∧
      t = ',' :: (b ++ (x ++ (c ++ y)))

end

/-- The documents that hold a value. -/
def Tree.Document (v : Tree) (t : Text) : Prop :=
  ∃ b x c, Blanks b ∧ v.Written x ∧ Blanks c ∧ t = b ++ (x ++ c)

end SchemaTypes.Json
