import Mathlib.Data.List.Nodup
import Mathlib.Tactic.SplitIfs
import SchemaTypes.Extension.Index
import SchemaTypes.Proofs.Scan.State

/-!
# Where classes stand

The classes of a code stand one behind the other, and each ends in a brace.

* `Spaced`: the spans follow each other from a position on.
* `ScanState.Behind`: the class that is being read starts behind the ones before it.
* **`spaced_scanClasses`**: so the spans of a scan are spaced.
* `Spaced.nodup`: no span is there twice.
-/

namespace SchemaTypes

/-- Spans of a code that follow each other from a position on, each up to a brace. -/
def Spaced (t : Text) (position : Nat) : List ClassSpan → Prop
  | [] => position ≤ t.length
  | s :: spans =>
    position ≤ s.start ∧ s.start ≤ s.bodyStop ∧ t[s.bodyStop]? = some '\x7d' ∧
      Spaced t s.stop spans

namespace Spaced

variable {t : Text} {i j : Nat} {spans : List ClassSpan}

theorem mono (h : Spaced t j spans) (hij : i ≤ j) : Spaced t i spans := by
  cases spans with
  | nil => exact Nat.le_trans hij h
  | cons s spans => exact ⟨Nat.le_trans hij h.1, h.2⟩

theorem le_start (h : Spaced t i spans) : ∀ s ∈ spans, i ≤ s.start := by
  induction spans generalizing i with
  | nil => exact fun s hs => absurd hs List.not_mem_nil
  | cons a spans ih =>
    obtain ⟨hi, ha, _, hrest⟩ := h
    intro s hs
    rcases List.mem_cons.mp hs with rfl | hs
    · exact hi
    · have := ih hrest s hs
      unfold ClassSpan.stop at this
      omega

/-- **No span is there twice.** -/
theorem nodup (h : Spaced t i spans) : spans.Nodup := by
  induction spans generalizing i with
  | nil => exact List.nodup_nil
  | cons a spans ih =>
    obtain ⟨_, ha, _, hrest⟩ := h
    refine List.nodup_cons.mpr ⟨?_, ih hrest⟩
    intro hmem
    have := hrest.le_start a hmem
    unfold ClassSpan.stop at this
    omega

end Spaced

/-! ## Scans -/

/-- Where the class that is being read starts. -/
def OpenClass.start? : OpenClass → Option Nat
  | none => Option.none
  | waiting _ start => some start
  | opened _ start _ => some start

namespace ScanState

/-- The class that is being read starts between two positions. -/
structure Behind (s : ScanState) (first position : Nat) : Prop where
  le : first ≤ position
  start : ∀ n ∈ s.current.start?, first ≤ n ∧ n ≤ position

namespace Behind

variable {s : ScanState} {first i : Nat}

theorem of_current_eq_none (h : s.current = .none) (i : Nat) : s.Behind i i := by
  refine ⟨Nat.le_refl i, ?_⟩
  intro n hn
  rw [h] at hn
  exact absurd hn nofun

theorem noteHeader (h : s.Behind first i) (t : Text) : (s.noteHeader i t).Behind first i := by
  unfold ScanState.noteHeader
  split_ifs
  · split
    · refine ⟨h.le, ?_⟩
      intro n hn
      obtain rfl : i = n := Option.some.inj hn
      exact ⟨h.le, Nat.le_refl i⟩
    · exact h
  · exact h

theorem openBrace (h : s.Behind first i) : (s.openBrace i).Behind first i := by
  obtain ⟨z, d, a, o⟩ := s
  cases d <;> cases o <;> exact ⟨h.le, h.start⟩

theorem advance (h : s.Behind first i) (c : Char) (rest : Text) :
    (s.advance c rest).Behind first (i + 1) := by
  refine ⟨Nat.le_succ_of_le h.le, ?_⟩
  intro n hn
  have := h.start n hn
  omega

theorem closeBrace (h : s.Behind first i) (hs : (s.closeBrace i).2 = none) :
    (s.closeBrace i).1.Behind first i := by
  obtain ⟨z, d, a, o⟩ := s
  rcases d with _ | _ | d <;> cases o <;> first | exact ⟨h.le, h.start⟩ | exact absurd hs nofun

theorem span_of_closeBrace (h : s.Behind first i) {a : ClassSpan}
    (ha : (s.closeBrace i).2 = some a) :
    first ≤ a.start ∧ a.start ≤ i ∧ a.bodyStop = i ∧
      (s.closeBrace i).1.current = .none := by
  unfold ScanState.closeBrace at ha ⊢
  split at ha
  · next name start bodyStart hd hc =>
    obtain rfl := Option.some.inj ha
    have := h.start start (by rw [hc]; rfl)
    exact ⟨this.1, this.2, rfl, rfl⟩
  · exact absurd ha nofun

end Behind

end ScanState

/-- **The spans that a scan finds** follow each other. -/
theorem spaced_scanFrom {t : Text} (rest : Text) :
    ∀ {s : ScanState} {first i : Nat} {spans : List ClassSpan}, t.drop i = rest → i ≤ t.length →
      s.Behind first i → scanFrom s i rest = .ok spans → Spaced t first spans := by
  induction rest with
  | nil =>
    intro s first i spans ht hi h hscan
    rw [scanFrom] at hscan
    split at hscan
    · cases hscan
    · cases hscan
    · obtain rfl := Except.ok.inj hscan
      exact Nat.le_trans h.le hi
  | cons c r ih =>
    intro s first i spans ht hi h hscan
    obtain ⟨hget, hr, hi'⟩ := Text.of_drop_eq_cons ht
    obtain ⟨s', rfl, hstep⟩ := scanFrom_cons_eq_ok hscan
    replace h := h.noteHeader (c :: r)
    generalize s.noteHeader i (c :: r) = s' at h hstep
    rcases hstep with ⟨_, _, hrest⟩ | ⟨_, hbrace, _, found, hrest, rfl⟩ | ⟨_, hrest⟩
    · exact ih hr hi' (h.openBrace.advance c r) hrest
    · cases hclose : (s'.closeBrace i).2 with
      | none => exact ih hr hi' ((h.closeBrace hclose).advance c r) hrest
      | some a =>
        obtain ⟨hfirst, hstart, hstop, hcurrent⟩ := h.span_of_closeBrace hclose
        refine ⟨hfirst, hstop.symm ▸ hstart, ?_, ?_⟩
        · rw [hstop, hget, hbrace]
        · show Spaced t (a.bodyStop + 1) found
          rw [hstop]
          have hnone : ((s'.closeBrace i).1.advance c r).current = .none := hcurrent
          exact ih hr hi' (.of_current_eq_none hnone _) hrest
    · exact ih hr hi' (h.advance c r) hrest

/-- **The classes of a code** follow each other. -/
theorem spaced_scanClasses {t : Text} {spans : List ClassSpan} (h : scanClasses t = .ok spans) :
    Spaced t 0 spans := by
  have hscan : scanFrom {} 0 t = .ok spans := by
    unfold scanClasses at h
    split at h
    · exact absurd h nofun
    · exact h
  exact spaced_scanFrom t List.drop_zero (Nat.zero_le _) (.of_current_eq_none rfl 0) hscan

theorem ExtensionIndex.spaced_spansOf (body : Text) : Spaced body 0 (spansOf body) := by
  unfold spansOf
  split
  · next spans h => exact spaced_scanClasses h
  · exact Nat.zero_le _

end SchemaTypes
