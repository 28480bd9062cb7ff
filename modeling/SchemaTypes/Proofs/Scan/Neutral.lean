import SchemaTypes.Proofs.Scan.Passage

/-!
# Neutral texts

Inside braces a neutral text closes all that it opens and nothing else.

* `scanFrom_openBrace`, `scanFrom_closeBrace`: what a brace within a line does to a scan.
* `Neutral`: inside braces the text takes every state to itself.
* `Neutral.append`, `neutral_inert`, `neutral_quoted`, `neutral_comment`: what is neutral.
* **`Neutral.braces`**: so is a pair of braces around a neutral text.
-/

namespace SchemaTypes

/-! ## Braces -/

namespace ScanState

variable {s : ScanState}

theorem openBrace_of_depth (h : s.depth ≠ 0) (i : Nat) :
    s.openBrace i = { s with depth := s.depth + 1 } := by
  unfold openBrace
  split
  · next h' _ => exact absurd h' h
  · rfl

theorem closeBrace_of_depth (h : s.depth ≠ 0) (i : Nat) :
    ({ s with depth := s.depth + 1 } : ScanState).closeBrace i = (s, none) := by
  unfold closeBrace
  split
  · next h' _ => exact absurd (Nat.succ.inj h') h
  · rfl

end ScanState

/-- **An open brace** within a line of code. -/
theorem scanFrom_openBrace (s : ScanState) (i : Nat) (rest : Text) :
    scanFrom (s.within .code) i ('\x7b' :: rest) =
      scanFrom ((s.openBrace i).within .code) (i + 1) rest := by
  rw [scanFrom, (s.quiet_within _).noteHeader, if_pos ⟨rfl, rfl⟩]
  obtain ⟨z, d, a, o⟩ := s
  cases d <;> cases o <;> rfl

/-- **A closing brace** within a line of code, where it is not stray. -/
theorem scanFrom_closeBrace {s : ScanState} (h : s.depth ≠ 0) (i : Nat) (rest : Text) :
    scanFrom (s.within .code) i ('\x7d' :: rest) =
      (scanFrom ((s.closeBrace i).1.within .code) (i + 1) rest).map
        ((s.closeBrace i).2.toList ++ ·) := by
  have ho : ¬((s.within .code).zone.isCode '\x7d' = true ∧ '\x7d' = '\x7b') := by
    simp
  rw [scanFrom, (s.quiet_within _).noteHeader, if_neg ho, if_pos ⟨rfl, rfl⟩,
    if_neg (by exact h)]
  obtain ⟨z, d, a, o⟩ := s
  rcases d with _ | _ | d <;> cases o <;> rfl

/-! ## Neutral texts -/

/-- Inside braces the text closes all that it opens and nothing else. -/
def Neutral (x : Text) : Prop :=
  ∀ s : ScanState, s.depth ≠ 0 → Passes x (s.within .code) (s.within .code)

theorem neutral_nil : Neutral [] := fun _ _ => .refl _

namespace Neutral

variable {x y : Text}

theorem append (hx : Neutral x) (hy : Neutral y) : Neutral (x ++ y) :=
  fun s hs => (hx s hs).trans (hy s hs)

theorem flatMap {α : Type} {f : α → Text} {l : List α} (h : ∀ a ∈ l, Neutral (f a)) :
    Neutral (l.flatMap f) := by
  induction l with
  | nil => exact neutral_nil
  | cons a l ih =>
    rw [List.flatMap_cons]
    exact (h a List.mem_cons_self).append (ih fun b hb => h b (List.mem_cons_of_mem _ hb))

/-- **A pair of braces** around a neutral text. -/
theorem braces (hx : Neutral x) : Neutral ('\x7b' :: x ++ ['\x7d']) := by
  intro s hs i rest
  rw [List.cons_append, List.cons_append, scanFrom_openBrace, ScanState.openBrace_of_depth hs,
    List.append_assoc, hx _ (Nat.succ_ne_zero _), List.singleton_append,
    scanFrom_closeBrace (Nat.succ_ne_zero _), ScanState.closeBrace_of_depth hs]
  have he : i + 1 + x.length + 1 = i + ('\x7b' :: (x ++ ['\x7d'])).length := by
    simp only [List.length_cons, List.length_append, List.length_nil]
    omega
  rw [he]
  cases scanFrom (s.within .code) (i + ('\x7b' :: (x ++ ['\x7d'])).length) rest <;> rfl

end Neutral

theorem neutral_inert {x : Text} (h : Inert x) : Neutral x := by
  intro s hs
  induction x with
  | nil => exact .refl _
  | cons c x ih =>
    have hc := h c List.mem_cons_self
    refine .cons_within (fun _ => ne_brace_of_isInert hc) (fun _ => after_of_isInert hc _)
      fun i rest => ?_
    have hx := ih (h.of_subset (List.subset_cons_self c x)) i rest
    rw [← hx]
    exact scanFrom_atLineStart (s := s.within .code) (.inr hs) _ _ _

theorem neutral_quoted {x : Text} (h : StaysQuoted x) : Neutral ('"' :: x ++ ['"']) :=
  fun _ _ => passes_quoted h

theorem neutral_comment {x : Text} (h : Unclosed (x ++ ['*'])) :
    Neutral ('/' :: '*' :: x ++ ['*', '/']) :=
  fun _ _ => passes_comment rfl x h

end SchemaTypes
