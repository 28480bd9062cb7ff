import SchemaTypes.Proofs.Scan.Plain

/-!
# Classes told from positions

Which classes a code has outside all braces, without going through it in states: by counting the
plain braces before a position, and by looking for the first position with a property.

* `depthAt`: how many braces are open in front of a position.
* `StartsLine`, `Header`, `headersBefore`: the class headers that count.
* `bodyBrace?`, `closingBrace?`, `Header.span?`: where the class of a header stands.
* `strayBrace?`: the first brace that is closed without having been opened.
* **`reading`**: the classes of a code, or why they cannot be told.
-/

namespace SchemaTypes

/-! ## Braces -/

/-- How often a plain character stands before a position. -/
def plainCount (t : Text) (c : Char) (i : Nat) : Nat :=
  (List.range i).countP (PlainAt t · c)

/-- How many braces are open in front of a position. -/
def depthAt (t : Text) (i : Nat) : Int :=
  plainCount t '\x7b' i - plainCount t '\x7d' i

@[simp] theorem depthAt_zero (t : Text) : depthAt t 0 = 0 := rfl

theorem plainCount_succ (t : Text) (c : Char) (i : Nat) :
    plainCount t c (i + 1) = plainCount t c i + if PlainAt t i c then 1 else 0 := by
  simp [plainCount, List.range_succ, List.countP_singleton]

theorem depthAt_succ_of_open {t : Text} {i : Nat} (h : PlainAt t i '\x7b') :
    depthAt t (i + 1) = depthAt t i + 1 := by
  have hc : ¬PlainAt t i '\x7d' := fun h' => absurd (h.unique h') (by decide)
  simp only [depthAt, plainCount_succ, if_pos h, if_neg hc]
  omega

theorem depthAt_succ_of_close {t : Text} {i : Nat} (h : PlainAt t i '\x7d') :
    depthAt t (i + 1) = depthAt t i - 1 := by
  have ho : ¬PlainAt t i '\x7b' := fun h' => absurd (h.unique h') (by decide)
  simp only [depthAt, plainCount_succ, if_pos h, if_neg ho]
  omega

theorem depthAt_succ_of_neither {t : Text} {i : Nat} (ho : ¬PlainAt t i '\x7b')
    (hc : ¬PlainAt t i '\x7d') : depthAt t (i + 1) = depthAt t i := by
  simp only [depthAt, plainCount_succ, if_neg ho, if_neg hc]
  omega

/-- The first position at which a brace is closed that has not been opened. -/
def strayBrace? (t : Text) : Option Nat :=
  (List.range t.length).find? fun i => PlainAt t i '\x7d' ∧ depthAt t i = 0

/-! ## Headers -/

/-- The position is the first one, or that behind a line feed of code. -/
def StartsLine (t : Text) : Nat → Prop
  | 0 => True
  | i + 1 => PlainAt t i '\n'

instance (t : Text) : (i : Nat) → Decidable (StartsLine t i)
  | 0 => isTrue trivial
  | i + 1 => inferInstanceAs (Decidable (PlainAt t i '\n'))

/-- A header of a class. -/
structure Header where
  name : Text
  start : Nat
deriving DecidableEq, Repr

/-- No body has been opened for the header before the position. -/
def Header.Waits (t : Text) (i : Nat) (h : Header) : Prop :=
  ∀ j < i, h.start ≤ j → ¬PlainAt t j '\x7b'

instance (t : Text) (i : Nat) (h : Header) : Decidable (h.Waits t i) := by
  unfold Header.Waits; infer_instance

/-- The headers that start before a position: those at the start of a line, outside all braces and
while no earlier header waits. -/
def headersBefore (t : Text) : Nat → List Header
  | 0 => []
  | i + 1 =>
    match classHeader? (t.drop i) with
    | none => headersBefore t i
    | some name =>
      if StartsLine t i ∧ depthAt t i = 0 ∧ ∀ h ∈ headersBefore t i, ¬h.Waits t i then
        headersBefore t i ++ [⟨name, i⟩]
      else headersBefore t i

/-- The headers of a code. -/
def headers (t : Text) : List Header :=
  headersBefore t t.length

/-! ## Classes -/

/-- The brace that opens the body for a header, which is the next one. -/
def Header.bodyBrace? (t : Text) (h : Header) : Option Nat :=
  (List.range t.length).find? fun i => h.start ≤ i ∧ PlainAt t i '\x7b'

/-- The brace that closes the one at a position: behind it as many are open as before that. -/
def closingBrace? (t : Text) (i : Nat) : Option Nat :=
  (List.range t.length).find? fun j =>
    i < j ∧ PlainAt t j '\x7d' ∧ depthAt t (j + 1) = depthAt t i

/-- The class that a header declares, if its body is opened and closed. -/
def Header.span? (t : Text) (h : Header) : Option ClassSpan :=
  match h.bodyBrace? t with
  | none => none
  | some i => (closingBrace? t i).map fun j => ⟨h.name, h.start, i + 1, j⟩

/-- The body for the header is opened and not closed. -/
def Header.endsOpen (t : Text) (h : Header) : Bool :=
  match h.bodyBrace? t with
  | none => false
  | some i => (closingBrace? t i).isNone

/-- The classes of a code outside all braces, one for each header; a position is told by its
`place`. -/
def readingAt (place : Nat → Nat) (t : Text) : Except ClassFault (List ClassSpan) :=
  match strayBrace? t with
  | some i => .error (.strayClosingBrace (place i))
  | none =>
    match (headers t).find? (Header.endsOpen t) with
    | some h => .error (.unbalancedBraces h.name)
    | none =>
      match (headers t).find? (Header.Waits t t.length) with
      | some h => .error (.missingBody h.name)
      | none => .ok ((headers t).filterMap (Header.span? t))

/-- The classes of a code outside all braces, or why they cannot be told. The place of a stray
brace counts in bytes. -/
def reading (t : Text) : Except ClassFault (List ClassSpan) :=
  readingAt (fun i => Text.byteLength (t.take i)) t

/-! ## Headers and their bodies -/

theorem Header.bodyBrace?_eq_some_iff {t : Text} {h : Header} {i : Nat} :
    h.bodyBrace? t = some i ↔ h.start ≤ i ∧ PlainAt t i '\x7b' ∧ h.Waits t i := by
  unfold Header.bodyBrace? Header.Waits
  rw [List.find?_range_eq_some]
  simp only [decide_eq_true_eq, List.mem_range, Bool.not_eq_true', decide_eq_false_iff_not, not_and]
  constructor
  · rintro ⟨⟨h₁, h₂⟩, _, h₃⟩
    exact ⟨h₁, h₂, h₃⟩
  · rintro ⟨h₁, h₂, h₃⟩
    exact ⟨⟨h₁, h₂⟩, h₂.lt, h₃⟩

theorem Header.bodyBrace?_eq_none {t : Text} {h : Header} (hw : h.Waits t t.length) :
    h.bodyBrace? t = none := by
  unfold Header.bodyBrace?
  rw [List.find?_range_eq_none]
  intro i hi
  simp only [Bool.not_eq_true', decide_eq_false_iff_not, not_and]
  exact hw i hi

theorem Header.Waits.endsOpen {t : Text} {h : Header} (hw : h.Waits t t.length) :
    h.endsOpen t = false := by
  rw [Header.endsOpen, Header.bodyBrace?_eq_none hw]

theorem Header.bodyBrace_of_span? {t : Text} {h : Header} {s : ClassSpan}
    (hs : h.span? t = some s) :
    ∃ i, h.bodyBrace? t = some i ∧ closingBrace? t i = some s.bodyStop ∧ i < s.bodyStop ∧
      s = ⟨h.name, h.start, i + 1, s.bodyStop⟩ := by
  unfold Header.span? at hs
  cases hb : h.bodyBrace? t with
  | none => simp [hb] at hs
  | some i =>
    rw [hb] at hs
    obtain ⟨j, hj, rfl⟩ := Option.map_eq_some_iff.mp hs
    refine ⟨i, rfl, hj, ?_, rfl⟩
    unfold closingBrace? at hj
    simp only [List.find?_range_eq_some, decide_eq_true_eq] at hj
    exact hj.1.1

end SchemaTypes
