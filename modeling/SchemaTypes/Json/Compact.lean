import SchemaTypes.Decimal
import SchemaTypes.Json.Value

/-!
# Compact JSON

Values are written without blanks, the members of an object in the order of their keys. A string
escapes the quote, the backslash and the controls below the space, and nothing else. A double is
written with the fewest digits that read back, by places from `10 ^ (-5)` to `10 ^ 16` and
otherwise with an exponent.

* `Json.stringLiteral`: a text as a string literal.
* `Json.doubleLiteral`: a double as a number literal.
* **`Json.compact`**: a value.
-/

namespace SchemaTypes.Json

/-! ## Strings -/

/-- A character as it stands in a string literal. -/
def escapedChar (c : Char) : Text :=
  match c with
  | '"' => "\\\""
  | '\\' => "\\\\"
  | '\x08' => "\\b"
  | '\t' => "\\t"
  | '\n' => "\\n"
  | '\x0c' => "\\f"
  | '\r' => "\\r"
  | c =>
    if c.toNat < 0x10 then "\\u000" ++ Text.hexadecimal c.toNat
    else if c.toNat < 0x20 then "\\u00" ++ Text.hexadecimal c.toNat
    else [c]

/-- A text in quotes. -/
def stringLiteral (t : Text) : Text :=
  "\"" ++ t.flatMap escapedChar ++ "\""

/-! ## Numbers -/

/-- A whole number in decimal digits, with a sign if it is negative. -/
def integerLiteral (n : Int) : Text :=
  if n < 0 then '-' :: Text.decimal n.natAbs else Text.decimal n.natAbs

/-- The digits of a number without the zeros at their end. -/
def significantDigits (n : Nat) : Text :=
  ((Text.decimal n).reverse.dropWhile (· = '0')).reverse

/-- Digits with a point after the first `point` places, where `point` may lie outside them. -/
def positional (digits : Text) (point : Int) : Text :=
  if point ≤ 0 then "0." ++ List.replicate (-point).toNat '0' ++ digits
  else if digits.length ≤ point then
    digits ++ List.replicate (point.toNat - digits.length) '0' ++ ".0"
  else digits.take point.toNat ++ "." ++ digits.drop point.toNat

/-- Digits with a point after the first and the exponent of ten of the first. -/
def scientific (digits : Text) (exponent : Int) : Text :=
  let fraction := digits.drop 1
  digits.take 1 ++ (if fraction.isEmpty then [] else '.' :: fraction) ++ "e" ++
    (if exponent < 0 then "-" else "+") ++ Text.decimal exponent.natAbs

/-- A decimal; positional if its first digit counts at least `10 ^ (-5)` and less than
`10 ^ 16`. -/
def decimalLiteral (d : Decimal) : Text :=
  let digits := significantDigits d.digits
  let point := (Text.decimal d.digits).length + d.exponent
  if -5 < point ∧ point ≤ 16 then positional digits point else scientific digits (point - 1)

/-- A double in decimal digits, with a sign if it has one. -/
def doubleLiteral (x : Float) : Text :=
  let bits := x.toBits
  let magnitude : Text := if bits.toNat % 0x8000000000000000 = 0 then "0.0" else
    decimalLiteral (Binary.ofBits bits).shortest
  if bits.toNat < 0x8000000000000000 then magnitude else '-' :: magnitude

/-- A number as it is written. -/
def Number.literal : Number → Text
  | .integer n => integerLiteral n
  | .double x => doubleLiteral x

/-! ## Values -/

mutual

/-- A value as it is written, without blanks. -/
def compact : Json → Text
  | null => "null"
  | bool true => "true"
  | bool false => "false"
  | number n => n.literal
  | string t => stringLiteral t
  | array [] => "[]"
  | array (v :: vs) => "[" ++ compact v ++ compactItems vs
  | object [] => "\x7b\x7d"
  | object ((k, v) :: ms) => "\x7b" ++ stringLiteral k ++ ":" ++ compact v ++ compactMembers ms

/-- The further items of an array, and its end. -/
def compactItems : List Json → Text
  | [] => "]"
  | v :: vs => "," ++ compact v ++ compactItems vs

/-- The further members of an object, and its end. -/
def compactMembers : List (Text × Json) → Text
  | [] => "\x7d"
  | (k, v) :: ms => "," ++ stringLiteral k ++ ":" ++ compact v ++ compactMembers ms

end

end SchemaTypes.Json
