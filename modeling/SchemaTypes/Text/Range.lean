import SchemaTypes.Text.Basic

/-!
# Ranges of characters

A property of characters is kept as a list of ranges of code points. A range has a stride, since
in many alphabets the capital and the small letters alternate.

* `CharRange.contains`: membership in one range.
* `inRanges`: membership in some range of a list.
* `CaseRun.image?`: a range together with the code point that its first member is mapped to.
-/

namespace SchemaTypes.Text

/-- The code points from `first` to `last`, every `stride`-th of them. -/
structure CharRange where
  first : Nat
  last : Nat
  stride : Nat := 1

/-- Is the code point in the range? -/
def CharRange.contains (r : CharRange) (n : Nat) : Bool :=
  r.first ≤ n && n ≤ r.last && (n - r.first) % r.stride == 0

/-- Is the character in one of the ranges? -/
def inRanges (rs : List CharRange) (c : Char) : Bool :=
  rs.any fun r => r.contains c.toNat

/-- Ranges without a stride, from pairs of bounds. -/
def ranges (bounds : List (Nat × Nat)) : List CharRange :=
  bounds.map fun b => { first := b.1, last := b.2 }

/-- Ranges from bounds and strides. -/
def stridedRanges (runs : List (Nat × Nat × Nat)) : List CharRange :=
  runs.map fun r => { first := r.1, last := r.2.1, stride := r.2.2 }

/-- A range whose members are mapped to another place, all by the same distance. -/
structure CaseRun where
  range : CharRange
  image : Nat

/-- Case runs from bounds, strides and first images. -/
def caseRuns (runs : List (Nat × Nat × Nat × Nat)) : List CaseRun :=
  runs.map fun r =>
    { range := { first := r.1, last := r.2.1, stride := r.2.2.1 }, image := r.2.2.2 }

/-- The image of a code point, if the run moves it. -/
def CaseRun.image? (r : CaseRun) (n : Nat) : Option Nat :=
  if r.range.contains n then some (r.image + (n - r.range.first)) else none

end SchemaTypes.Text
