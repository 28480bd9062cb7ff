import SchemaTypes.Proofs.Scan.Neutral
import SchemaTypes.Proofs.Scan.Reading

/-!
# Balanced texts

What a text does to the braces around it is told by its own plain braces alone.

* `Text.Balanced`: literals and comments end in the text, and so do braces.
* `plainAt_append_newline`: a line feed behind a text changes nothing in it.
* `scanFrom_balanced`: the rest of a balanced text in a scan, from any position on.
* **`Text.Balanced.neutral`**: a balanced text and the end of its line are neutral.
-/

namespace SchemaTypes

/-! ## Balance -/

/-- No literal and no comment runs on behind the text, but for a comment that ends with its line;
as many plain braces are opened as are closed, and none is closed that has not been opened. -/
structure Text.Balanced (t : Text) : Prop where
  closed : PlainAt (t ++ ['\n']) t.length '\n'
  opened : ∀ i ≤ t.length, 0 ≤ depthAt t i
  even : depthAt t t.length = 0

theorem Text.balanced_nil : Text.Balanced [] where
  closed := by
    rw [plainAt_iff rfl]
    exact ⟨rfl, rfl⟩
  opened i hi := by
    rw [Nat.le_zero.mp hi]
    exact Int.le_of_eq (depthAt_zero []).symm
  even := depthAt_zero []

theorem Zone.after_append_newline (z : Zone) (c : Char) (r rest : Text) :
    z.after c (r ++ '\n' :: rest) = z.after c r := by
  cases r with
  | nil => cases z <;> simp [after]
  | cons d r => cases z <;> rfl

/-- **The zones of a text** are the same in front of a line feed. -/
theorem Zone.getElem?_marks_append {z : Zone} {t : Text} {i : Nat} (h : i < t.length) :
    (z.marks (t ++ ['\n']))[i]? = (z.marks t)[i]? := by
  induction t generalizing z i with
  | nil => exact absurd h (Nat.not_lt_zero i)
  | cons c r ih =>
    rw [List.cons_append, marks, marks, after_append_newline]
    cases i with
    | zero => rfl
    | succ i => exact ih (Nat.lt_of_succ_lt_succ h)

theorem Zone.eq_code_of_isCode {z : Zone} {c : Char} (h : z.isCode c = true) (hc : c ≠ '\n') :
    z = code := by
  simpa [isCode, hc] using h

/-- **A line feed behind a text** does not change which characters in it are plain. -/
theorem plainAt_append_newline {t : Text} {i : Nat} {c : Char} (hc : isStructural c = true)
    (hi : i < t.length) : PlainAt (t ++ ['\n']) i c ↔ PlainAt t i c := by
  rw [plainAt_iff hc, plainAt_iff hc, List.getElem?_append_left hi, Zone.getElem?_marks_append hi]

/-! ## Passing a balanced text -/

/-- **A character inside braces** that is no brace of code. -/
theorem scanFrom_plain {s : ScanState} (h : s.depth ≠ 0) {z : Zone} {c : Char}
    (hc : ¬(z.isCode c = true ∧ (c = '\x7b' ∨ c = '\x7d'))) (i : Nat) (r : Text) :
    scanFrom (s.within z) i (c :: r) = scanFrom (s.within (z.after c r)) (i + 1) r := by
  rw [scanFrom, (s.quiet_within z).noteHeader, if_neg fun ho => hc ⟨ho.1, .inl ho.2⟩,
    if_neg fun ho => hc ⟨ho.1, .inr ho.2⟩]
  exact scanFrom_atLineStart (s := s.within (z.after c r)) (.inr h) _ (i + 1) r

/-- **What is left of a balanced text**, from a position on, closes the braces that are open there
and no other. -/
theorem scanFrom_balanced {t : Text} (ht : t.Balanced) {s : ScanState} (hs : s.depth ≠ 0)
    (rest : Text) {r : Text} {z : Zone} {i k : Nat} (hr : t.drop i = r) (hi : i ≤ t.length)
    (hz : (Zone.code.marks (t ++ ['\n'])).drop i = z.marks (r ++ ['\n']))
    (hk : depthAt t i = k) (p : Nat) :
    scanFrom (({ s with depth := s.depth + k } : ScanState).within z) p (r ++ '\n' :: rest) =
      scanFrom (s.within .code) (p + (r ++ ['\n']).length) rest := by
  have hdepth : ∀ k, ({ s with depth := s.depth + k } : ScanState).depth ≠ 0 := by
    intro k
    show s.depth + k ≠ 0
    omega
  induction r generalizing z i k p with
  | nil =>
    obtain rfl : i = t.length := Nat.le_antisymm hi (List.drop_eq_nil_iff.mp hr)
    obtain rfl : k = 0 := by
      have := hk.symm.trans ht.even
      omega
    have hcode : z.isCode '\n' = true := by
      have hmark := ((plainAt_iff rfl).mp ht.closed).2
      rw [← List.head?_drop, hz] at hmark
      exact Option.some.inj hmark
    rw [List.nil_append, scanFrom_plain (hdepth 0) (fun h => absurd h.2 (by decide)),
      Zone.after_of_newline hcode]
    rfl
  | cons c r ih =>
    obtain ⟨hchar, hdrop, hi'⟩ := Text.of_drop_eq_cons hr
    have hmark : (Zone.code.marks (t ++ ['\n']))[i]? = some (z.isCode c) := by
      rw [← List.head?_drop, hz]
      rfl
    have hnext : (Zone.code.marks (t ++ ['\n'])).drop (i + 1) =
        (z.after c r).marks (r ++ ['\n']) := by
      rw [← List.drop_drop, hz, ← Zone.after_append_newline z c r []]
      rfl
    have hplain : ∀ d, isStructural d = true → (PlainAt t i d ↔ c = d ∧ z.isCode c = true) := by
      intro d hd
      rw [← plainAt_append_newline hd hi', plainAt_iff hd, List.getElem?_append_left hi', hchar,
        hmark, Option.some.injEq, Option.some.injEq]
    have hstep := fun k' hk' => ih hdrop hi' hnext (k := k') hk' (p + 1)
    have hlength : p + (c :: r ++ ['\n']).length = p + 1 + (r ++ ['\n']).length := by
      rw [List.cons_append, List.length_cons]
      omega
    rw [hlength, List.cons_append]
    by_cases hopen : z.isCode c = true ∧ c = '\x7b'
    · obtain ⟨hcode, rfl⟩ := hopen
      obtain rfl := Zone.eq_code_of_isCode hcode (by decide)
      have hk' : depthAt t (i + 1) = (k + 1 : Nat) := by
        rw [depthAt_succ_of_open ((hplain _ rfl).mpr ⟨rfl, hcode⟩), hk]
        rfl
      rw [scanFrom_openBrace, ScanState.openBrace_of_depth (hdepth k)]
      exact hstep (k + 1) hk'
    by_cases hclose : z.isCode c = true ∧ c = '\x7d'
    · obtain ⟨hcode, rfl⟩ := hclose
      obtain rfl := Zone.eq_code_of_isCode hcode (by decide)
      have hk' := depthAt_succ_of_close ((hplain _ rfl).mpr ⟨rfl, hcode⟩)
      have hnonneg := ht.opened (i + 1) hi'
      -- the brace that is closed is one of those that have been opened in the text
      obtain ⟨k, rfl⟩ : ∃ k', k = k' + 1 := ⟨k - 1, by omega⟩
      have hclosed : (({ s with depth := s.depth + (k + 1) } : ScanState).closeBrace p) =
          ({ s with depth := s.depth + k }, none) :=
        ScanState.closeBrace_of_depth (s := { s with depth := s.depth + k }) (hdepth k) p
      rw [scanFrom_closeBrace (hdepth (k + 1)), hclosed]
      have hrest := hstep k (by omega)
      rw [show Zone.code.after '\x7d' r = .code by simp [Zone.after, isQuote]] at hrest
      dsimp only
      rw [hrest]
      cases scanFrom (s.within .code) (p + 1 + (r ++ ['\n']).length) rest <;> rfl
    · have hno : ¬(z.isCode c = true ∧ (c = '\x7b' ∨ c = '\x7d')) := by tauto
      have hk' : depthAt t (i + 1) = k := by
        rw [depthAt_succ_of_neither, hk]
        · rw [hplain _ rfl]
          tauto
        · rw [hplain _ rfl]
          tauto
      rw [scanFrom_plain (hdepth k) hno, Zone.after_append_newline]
      exact hstep k hk'

/-- **A balanced text and the end of its line** are neutral. -/
theorem Text.Balanced.neutral {t : Text} (h : t.Balanced) : Neutral (t ++ ['\n']) := by
  intro s hs p rest
  rw [List.append_assoc, List.singleton_append]
  exact scanFrom_balanced h hs rest (k := 0) rfl (Nat.zero_le _) rfl rfl p

end SchemaTypes
