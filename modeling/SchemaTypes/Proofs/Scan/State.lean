import Mathlib.Tactic.SplitIfs
import SchemaTypes.Extension.ClassScan

/-!
# States of a scan

What noting a header and passing a brace leave alone, and what a step can do.

* `ScanState.within`, `ScanState.fresh`: the same braces and classes, elsewhere in a line.
* `ScanState.Quiet`: no header is noted in the state.
* `ScanState.Quiet.noteHeader`, `noteHeader_of_no_header`: so the state stays as it is.
* **`scanFrom_cons_eq_ok`**: the steps of a scan that succeeds.
-/

namespace SchemaTypes

namespace ScanState

/-! ## Parts -/

@[simp] theorem zone_noteHeader (s : ScanState) (i : Nat) (t : Text) :
    (s.noteHeader i t).zone = s.zone := by
  unfold noteHeader
  split_ifs
  · split <;> rfl
  · rfl

@[simp] theorem depth_noteHeader (s : ScanState) (i : Nat) (t : Text) :
    (s.noteHeader i t).depth = s.depth := by
  unfold noteHeader
  split_ifs
  · split <;> rfl
  · rfl

@[simp] theorem zone_openBrace (s : ScanState) (i : Nat) : (s.openBrace i).zone = s.zone := by
  unfold openBrace
  split <;> rfl

@[simp] theorem depth_openBrace (s : ScanState) (i : Nat) :
    (s.openBrace i).depth = s.depth + 1 := by
  unfold openBrace
  split
  · next h _ => simp [h]
  · rfl

@[simp] theorem zone_closeBrace (s : ScanState) (i : Nat) : (s.closeBrace i).1.zone = s.zone := by
  unfold closeBrace
  split <;> rfl

@[simp] theorem depth_closeBrace (s : ScanState) (i : Nat) :
    (s.closeBrace i).1.depth = s.depth - 1 := by
  unfold closeBrace
  split
  · next h _ => simp [h]
  · rfl

/-! ## Places in a line -/

/-- The state in the same braces, in the zone and within a line. -/
def within (s : ScanState) (z : Zone) : ScanState :=
  { s with zone := z, atLineStart := false }

/-- The state in the same braces, in code at the start of a line. -/
def fresh (s : ScanState) : ScanState :=
  { s with zone := .code, atLineStart := true }

/-! ## States without headers -/

/-- The state is one in which no header is noted. -/
def Quiet (s : ScanState) : Prop :=
  s.zone ≠ .code ∨ s.depth ≠ 0 ∨ s.atLineStart = false

theorem Quiet.noteHeader {s : ScanState} (h : s.Quiet) (i : Nat) (t : Text) :
    s.noteHeader i t = s := by
  unfold ScanState.noteHeader
  rw [if_neg]
  rintro ⟨hz, ha, hd, _⟩
  rcases h with h | h | h
  · exact h hz
  · exact h hd
  · rw [h] at ha
    exact Bool.noConfusion ha

theorem quiet_within (s : ScanState) (z : Zone) : (s.within z).Quiet :=
  .inr (.inr rfl)

theorem noteHeader_of_no_header (s : ScanState) (i : Nat) {t : Text} (h : classHeader? t = none) :
    s.noteHeader i t = s := by
  unfold noteHeader
  rw [h]
  split <;> rfl

end ScanState

theorem classHeader?_slash (t : Text) : classHeader? ('/' :: t) = none := by
  simp [classHeader?, skipSpacing, isSpacing, skipWord, word?, Text.startsWith, Text.ofString_eq]

/-! ## Steps -/

theorem Text.of_drop_eq_cons {t r : Text} {i : Nat} {c : Char} (h : t.drop i = c :: r) :
    t[i]? = some c ∧ t.drop (i + 1) = r ∧ i + 1 ≤ t.length := by
  refine ⟨?_, ?_, ?_⟩
  · rw [← List.head?_drop, h]
    rfl
  · rw [← List.drop_drop, h]
    rfl
  · have := congrArg List.length h
    simp only [List.length_drop, List.length_cons] at this
    omega

/-- **A step of a scan that succeeds** goes past an opening brace, a closing brace that is not
stray, or another character. -/
theorem scanFrom_cons_eq_ok {s : ScanState} {i : Nat} {c : Char} {r : Text}
    {spans : List ClassSpan} (h : scanFrom s i (c :: r) = .ok spans) :
    ∃ s', s' = s.noteHeader i (c :: r) ∧
      ((s'.zone.isCode c = true ∧ c = '\x7b' ∧
          scanFrom ((s'.openBrace i).advance c r) (i + 1) r = .ok spans) ∨
        (s'.zone.isCode c = true ∧ c = '\x7d' ∧ s'.depth ≠ 0 ∧ ∃ found,
          scanFrom ((s'.closeBrace i).1.advance c r) (i + 1) r = .ok found ∧
            (s'.closeBrace i).2.toList ++ found = spans) ∨
        (¬(s'.zone.isCode c = true ∧ (c = '\x7b' ∨ c = '\x7d')) ∧
          scanFrom (s'.advance c r) (i + 1) r = .ok spans)) := by
  rw [scanFrom] at h
  refine ⟨_, rfl, ?_⟩
  generalize s.noteHeader i (c :: r) = s' at h
  dsimp only at h
  split_ifs at h with ho hc h₀
  · exact .inl ⟨ho.1, ho.2, h⟩
  · cases hrest : scanFrom ((s'.closeBrace i).1.advance c r) (i + 1) r with
    | error f =>
      rw [hrest] at h
      exact absurd h nofun
    | ok found =>
      rw [hrest] at h
      exact .inr (.inl ⟨hc.1, hc.2, h₀, found, rfl, Except.ok.inj h⟩)
  · refine .inr (.inr ⟨?_, h⟩)
    rintro ⟨hcode, hbrace | hbrace⟩
    · exact ho ⟨hcode, hbrace⟩
    · exact hc ⟨hcode, hbrace⟩

end SchemaTypes
