import SchemaTypes.Json.Reader

/-!
# Numerals

A numeral is a number as a document writes it: an optional sign, a whole part without superfluous
zeros, an optional fraction and an optional exponent.

* `Numeral`: the parts of a numeral.
* `numeral`: takes the longest numeral off the front of a text.
* `Numeral.number`: the value. Significands are cut where they would leave 64 bits, and a double
  is one product or quotient of a significand and a power of ten.
-/

namespace SchemaTypes.Json

/-- The parts of a numeral. A part that is absent has no digits. -/
structure Numeral where
  negative : Bool := false
  whole : Text := []
  fraction : Text := []
  negativeExponent : Bool := false
  exponent : Text := []
deriving DecidableEq, Repr

/-! ## Form -/

/-- The digits in front of a text and the rest. -/
def digits (input : Text) : Parsed Text (input.length + 1) where
  value := input.takeWhile Char.isDigit
  rest := input.dropWhile Char.isDigit
  short := Nat.lt_succ_of_le (List.dropWhile_suffix Char.isDigit).length_le

/-- Does the text begin with a digit? -/
def digitAhead : Text → Bool
  | [] => false
  | c :: _ => c.isDigit

/-- The fault of a text that does not begin with a digit where it should; `atEnd` is its cause if
the text is at its end. -/
def noDigit (atEnd : Cause) (input : Text) : Fault :=
  .inside input (if input.isEmpty then atEnd else .invalidNumber)

/-- The whole part: a lone zero, or digits that begin with another one. -/
def wholePart (atEnd : Cause) (input : Text) : Except Fault (Parsed Text input.length) :=
  match input with
  | '0' :: r =>
    if digitAhead r then .error (.inside r .invalidNumber)
    else .ok (.start ['0'] r)
  | c :: r =>
    if c.isDigit then .ok ((digits r).map (c :: ·)) else .error (noDigit atEnd (c :: r))
  | [] => .error (noDigit atEnd [])

/-- The fraction: nothing, or a point and at least one digit. -/
def fractionPart (atEnd : Cause) (input : Text) :
    Except Fault (Parsed Text (input.length + 1)) :=
  match input with
  | '.' :: r =>
    if digitAhead r then .ok (digits r).succ else .error (noDigit atEnd r)
  | input => .ok (.start [] input)

/-- The digits of an exponent, at least one. -/
def exponentDigits (atEnd : Cause) (input : Text) :
    Except Fault (Parsed Text (input.length + 1)) :=
  if digitAhead input then .ok (digits input) else .error (noDigit atEnd input)

/-- The exponent: nothing, or its mark, an optional sign and at least one digit. The sign comes
first, true if it is a minus. -/
def exponentPart (atEnd : Cause) (input : Text) :
    Except Fault (Parsed (Bool × Text) (input.length + 1)) :=
  match input with
  | [] => .ok (.start (false, []) [])
  | c :: r =>
    if c = 'e' ∨ c = 'E' then
      match r with
      | '+' :: r' => (exponentDigits atEnd r').map fun p => (p.map (false, ·)).succ.succ
      | '-' :: r' => (exponentDigits atEnd r').map fun p => (p.map (true, ·)).succ.succ
      | r => (exponentDigits atEnd r).map fun p => (p.map (false, ·)).succ
    else .ok (.start (false, []) (c :: r))

/-- Takes a numeral without its sign off the front of a text. -/
def unsignedNumeral (atEnd : Cause) (input : Text) : Except Fault (Parsed Numeral input.length) :=
  do
  let w ← wholePart atEnd input
  let f ← fractionPart atEnd w.rest
  let e ← exponentPart atEnd f.rest
  return w.behind <| f.behind <| e.map fun (negative, digits) =>
    { whole := w.value, fraction := f.value, negativeExponent := negative, exponent := digits }

/-- Takes a numeral off the front of a text. -/
def numeral (atEnd : Cause) (input : Text) : Except Fault (Parsed Numeral input.length) :=
  match input with
  | '-' :: r => (unsignedNumeral atEnd r).map fun p =>
      (p.map fun n => { n with negative := true }).succ
  | input => unsignedNumeral atEnd input

/-! ## Value -/

/-- The largest significand that is kept. -/
def significandLimit : Nat := 0xFFFFFFFFFFFFFFFF

/-- The value of a digit. -/
def digitValue (c : Char) : Nat :=
  c.toNat - 48

/-- Appends digits to a significand as long as it keeps to the limit, and returns the digits that
were left out. -/
def absorb (significand : Nat) : Text → Nat × Text
  | [] => (significand, [])
  | d :: ds =>
    let next := significand * 10 + digitValue d
    if next ≤ significandLimit then absorb next ds else (significand, d :: ds)

/-- The digits of an exponent behind the one with which it leaves 31 bits, if one does. -/
def excess? (exponent : Nat) : Text → Option Text
  | [] => none
  | d :: ds =>
    let next := exponent * 10 + digitValue d
    if next < 0x80000000 then excess? next ds else some ds

/-- A natural number as the nearest double. -/
def toDouble (n : Nat) : Float :=
  Float.ofScientific n false 0

/-- The nearest double to a power of ten. -/
def powerOfTen (k : Nat) : Float :=
  Float.ofScientific 1 false k

/-- A double divided some times by the largest power of ten that is a double. -/
def divideByLargest : Nat → Float → Float
  | 0, x => x
  | n + 1, x => divideByLargest n (x / powerOfTen 308)

/-- A significand times a power of ten, in one multiplication or division if the power is a
double. Smaller powers are divided off in steps; three steps leave zero of any significand.
There is no value if the product is too large. -/
def scaled? (significand : Nat) (exponent : Int) : Option Float :=
  let x := toDouble significand
  let k := exponent.natAbs
  if 0 ≤ exponent then
    if k ≤ 308 then
      let y := x * powerOfTen k
      if y.isInf then none else some y
    else if significand = 0 then some x else none
  else
    let steps := (k - 1) / 308
    some (divideByLargest (min steps 3) x / powerOfTen (k - 308 * steps))

/-- A double with a sign. -/
def signed (negative : Bool) (x : Float) : Number :=
  .double (if negative then -x else x)

/-- The value of a numeral in front of a text. A numeral without fraction and exponent is a whole
number if it fits 64 bits, where a negative one has a sign bit and `-0` is a double. -/
def Numeral.number (n : Numeral) (rest : Text) : Except Fault Number :=
  let (s, excess) := absorb 0 n.whole
  if n.fraction = [] ∧ n.exponent = [] ∧ excess = [] then
    if !n.negative then .ok (.integer s)
    else if 0 < s ∧ s ≤ 0x8000000000000000 then .ok (.integer (-s))
    else .ok (signed true (toDouble s))
  else
    let (s, unused) := absorb s n.fraction
    let places : Int := excess.length + unused.length - n.fraction.length
    match excess? 0 n.exponent with
    | some digits =>
      if s ≠ 0 ∧ !n.negativeExponent then .error (.before (digits ++ rest) .numberOutOfRange)
      else .ok (signed n.negative (toDouble 0))
    | none =>
      let e : Int := (n.exponent.foldl (fun k d => k * 10 + digitValue d) 0 : Nat)
      match scaled? s (if n.negativeExponent then places - e else places + e) with
      | some x => .ok (signed n.negative x)
      | none => .error (.before rest .numberOutOfRange)

end SchemaTypes.Json
