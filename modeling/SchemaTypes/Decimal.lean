import SchemaTypes.Text.Basic

/-!
# The shortest decimal of a double

A finite double is the real number `m · 2 ^ q`. The reals that round to it form an interval whose
ends are halfway to its neighbours. Among the decimals in that interval one with the fewest digits
is selected, and of two such the nearer one.

* `Binary.ofBits`: the significand and exponent of a finite positive double.
* `Binary.readsBack`: does a decimal lie in the interval?
* `Binary.shortest`: the selected decimal.
-/

namespace SchemaTypes

/-- A decimal number, `digits · 10 ^ exponent`. -/
structure Decimal where
  digits : Nat
  exponent : Int
deriving DecidableEq, Repr

/-- A finite nonnegative double, `significand · 2 ^ exponent`. -/
structure Binary where
  significand : Nat
  exponent : Int
  -- the neighbour below is only half as far away as the neighbour above
  narrowBelow : Bool
deriving DecidableEq, Repr

namespace Binary

/-- The double with the given bits, whatever its sign bit is. -/
def ofBits (bits : UInt64) : Binary :=
  let biased : Nat := bits.toNat / 0x10000000000000 % 0x800
  let fraction : Nat := bits.toNat % 0x10000000000000
  if biased = 0 then ⟨fraction, -1074, false⟩
  else ⟨0x10000000000000 + fraction, biased - 1075, fraction = 0 && biased > 1⟩

/-! ## The rounding interval

Distances are counted in quarters of the last binary place, so that the ends of the interval are
whole. A quarter is `numerator k / denominator k` in units of `10 ^ k`. -/

/-- The value of a double, in quarters of its last place. -/
def quarters (x : Binary) : Nat := 4 * x.significand

/-- The lower end of the rounding interval. -/
def lowerEnd (x : Binary) : Nat := x.quarters - if x.narrowBelow then 1 else 2

/-- The upper end of the rounding interval. -/
def upperEnd (x : Binary) : Nat := x.quarters + 2

/-- The numerator of a quarter in units of `10 ^ k`. -/
def numerator (x : Binary) (k : Int) : Nat :=
  Nat.pow 2 (x.exponent - 2).toNat * Nat.pow 10 (-k).toNat

/-- The denominator of a quarter in units of `10 ^ k`. -/
def denominator (x : Binary) (k : Int) : Nat :=
  Nat.pow 2 (2 - x.exponent).toNat * Nat.pow 10 k.toNat

/-- **The decimal lies in the rounding interval.** The ends belong to it if the significand is
even. -/
def readsBack (x : Binary) (d : Decimal) : Bool :=
  let point := d.digits * x.denominator d.exponent
  let lower := x.lowerEnd * x.numerator d.exponent
  let upper := x.upperEnd * x.numerator d.exponent
  if x.significand % 2 = 0 then lower ≤ point && point ≤ upper
  else lower < point && point < upper

/-! ## Selection -/

/-- The largest multiple of `10 ^ k` that does not exceed the value. -/
def floorAt (x : Binary) (k : Int) : Decimal :=
  ⟨x.quarters * x.numerator k / x.denominator k, k⟩

/-- Is the value nearer to the multiple of `10 ^ k` above it than to the one below it? A tie goes
to the even multiple. -/
def nearerAbove (x : Binary) (k : Int) : Bool :=
  let below := (x.floorAt k).digits
  let twice := 2 * (x.quarters * x.numerator k)
  let middle := (2 * below + 1) * x.denominator k
  middle < twice || (middle = twice && below % 2 = 1)

/-- A multiple of `10 ^ k` that reads back, the nearer one if both neighbours do. -/
def candidate? (x : Binary) (k : Int) : Option Decimal :=
  let below := x.floorAt k
  let above : Decimal := ⟨below.digits + 1, k⟩
  match x.readsBack below, x.readsBack above with
  | true, true => some (if x.nearerAbove k then above else below)
  | true, false => some below
  | false, true => some above
  | false, false => none

/-- The least exponent of a power of ten above the value. Every double that is not zero exceeds
`10 ^ (-400)`. -/
def magnitude (x : Binary) : Int :=
  let scaled :=
    x.significand * Nat.pow 2 x.exponent.toNat * Nat.pow 10 400 / Nat.pow 2 (-x.exponent).toNat
  (Nat.toDigits 10 scaled).length - 400

/-- The decimal with the value of a double. -/
def exact (x : Binary) : Decimal :=
  ⟨x.significand * Nat.pow 2 x.exponent.toNat * Nat.pow 5 (-x.exponent).toNat, min x.exponent 0⟩

/-- The decimal with the fewest digits that reads back; seventeen digits always do. -/
def shortest (x : Binary) : Decimal :=
  let found := (List.range 17).findSome? fun n => x.candidate? (x.magnitude - (n + 1 : Nat))
  found.getD x.exact

end Binary

end SchemaTypes
