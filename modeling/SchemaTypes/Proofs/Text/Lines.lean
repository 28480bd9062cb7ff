import Mathlib.Data.List.Chain
import SchemaTypes.Generation.Comment
import SchemaTypes.Proofs.Text.Trim

/-!
# Texts and their lines

A text can be put together again from its lines if no carriage return has gone with a line feed.

* `Text.lines_induction`: from a last line, and from what is behind a line to all of it.
* `Text.IsLine`, `Text.lines_unlines`: lines that are put together are the lines again.
* `Text.LineSafe`: no carriage return goes with a line feed; texts in a row keep it.
* **`Text.join_lines`**: the lines of such a text make the text.
-/

namespace SchemaTypes.Text

/-! ## Cutting at line feeds -/

/-- **Induction over lines**: a text is one line, or a line with its line feed and a text. -/
theorem lines_induction {motive : Text → Prop} (single : ∀ l, '\n' ∉ l → motive l)
    (cons : ∀ l r, '\n' ∉ l → motive r → motive (l ++ '\n' :: r)) (t : Text) : motive t := by
  generalize hn : t.length = n
  induction n using Nat.strongRecOn generalizing t with
  | ind n ih =>
    by_cases h : '\n' ∈ t
    · obtain ⟨l, r, rfl, hl⟩ := List.eq_append_cons_of_mem h
      refine cons l r hl (ih r.length ?_ r rfl)
      rw [← hn, List.length_append, List.length_cons]
      omega
    · exact single t h

theorem inclusiveLines_append_newline {l : Text} (h : '\n' ∉ l) (r : Text) :
    inclusiveLines (l ++ '\n' :: r) = (l ++ ['\n']) :: inclusiveLines r := by
  induction l with
  | nil => rfl
  | cons c l ih =>
    obtain ⟨hc, hl⟩ := not_or.mp (mt List.mem_cons.mpr h)
    rw [List.cons_append, inclusiveLines, if_neg (Ne.symm hc), ih hl]
    rfl

theorem inclusiveLines_of_no_newline {l : Text} (h : '\n' ∉ l) (hne : l ≠ []) :
    inclusiveLines l = [l] := by
  induction l with
  | nil => exact absurd rfl hne
  | cons c l ih =>
    obtain ⟨hc, hl⟩ := not_or.mp (mt List.mem_cons.mpr h)
    rw [inclusiveLines, if_neg (Ne.symm hc)]
    cases l with
    | nil => rfl
    | cons d l => rw [ih hl (List.cons_ne_nil _ _)]

theorem chompLine_isPrefix (l : Text) : chompLine (l ++ ['\n']) <+: l := by
  have hreverse : (l ++ ['\n']).reverse = '\n' :: l.reverse := by simp
  unfold chompLine
  rw [hreverse]
  split
  · next r heq =>
    rw [← List.reverse_reverse l, (List.cons.inj heq).2, List.reverse_cons]
    exact List.prefix_append _ _
  · next r _ heq =>
    have hl : r.reverse = l := by rw [← (List.cons.inj heq).2, List.reverse_reverse]
    exact hl ▸ List.prefix_refl _
  · next hno => exact absurd rfl (hno _)

theorem chompLine_append_newline {l : Text} (h : l.getLast? ≠ some '\r') :
    chompLine (l ++ ['\n']) = l := by
  have hreverse : (l ++ ['\n']).reverse = '\n' :: l.reverse := by simp
  rw [← List.head?_reverse] at h
  unfold chompLine
  rw [hreverse]
  cases hl : l.reverse with
  | nil => rw [List.reverse_eq_nil_iff.mp hl]; rfl
  | cons c r =>
    rw [hl] at h
    have hc : c ≠ '\r' := fun hc => h (congrArg some hc)
    split
    · next heq => exact absurd (List.cons.inj (List.cons.inj heq).2).1 hc
    · next heq => rw [← (List.cons.inj heq).2, ← hl, List.reverse_reverse]
    · next hno => exact absurd rfl (hno _)

theorem chompLine_of_no_newline {l : Text} (h : '\n' ∉ l) : chompLine l = l := by
  unfold chompLine
  split
  · next r heq => exact absurd (List.mem_reverse.mp (heq ▸ List.mem_cons_self)) h
  · next r _ heq => exact absurd (List.mem_reverse.mp (heq ▸ List.mem_cons_self)) h
  · rfl

/-! ## Lines put together -/

/-- The text can be a line: no line feed is in it, and no carriage return ends it. -/
structure IsLine (l : Text) : Prop where
  no_newline : '\n' ∉ l
  last : l.getLast? ≠ some '\r'

/-- **Lines that are put together** are the lines again. -/
theorem lines_unlines {ls : List Text} (h : ∀ l ∈ ls, IsLine l) : lines (unlines ls) = ls := by
  induction ls with
  | nil => rfl
  | cons l ls ih =>
    obtain ⟨hl, hls⟩ := List.forall_mem_cons.mp h
    have hrest := ih hls
    unfold lines at hrest ⊢
    rw [unlines_cons, inclusiveLines_append_newline hl.no_newline, List.map_cons, hrest,
      chompLine_append_newline hl.last]

/-- The lines of a text with a line feed in it: those up to the line feed, and those behind it. -/
theorem lines_append_newline_append (t r : Text) :
    lines (t ++ '\n' :: r) = lines (t ++ ['\n']) ++ lines r := by
  unfold lines
  induction t using lines_induction with
  | single l hl =>
    rw [inclusiveLines_append_newline hl, inclusiveLines_append_newline hl]
    rfl
  | cons l x hl ih =>
    rw [List.append_assoc, List.append_assoc, List.cons_append, List.cons_append,
      inclusiveLines_append_newline hl, inclusiveLines_append_newline hl, List.map_cons, ih]
    rfl

theorem lines_unlines_eq_flatMap (ls : List Text) :
    lines (unlines ls) = ls.flatMap fun l => lines (l ++ ['\n']) := by
  induction ls with
  | nil => rfl
  | cons l ls ih => rw [unlines_cons, lines_append_newline_append, ih, List.flatMap_cons]

theorem exists_unlines_eq (ts : List Text) :
    ∃ ls, (∀ l ∈ ls, '\n' ∉ l) ∧ unlines ls = unlines ts := by
  have hone : ∀ t : Text, ∃ ls, (∀ l ∈ ls, '\n' ∉ l) ∧ unlines ls = t ++ ['\n'] := by
    intro t
    induction t using lines_induction with
    | single l hl => exact ⟨[l], List.forall_mem_singleton.mpr hl, by simp⟩
    | cons l r hl ih =>
      obtain ⟨ls, hls, heq⟩ := ih
      exact ⟨l :: ls, List.forall_mem_cons.mpr ⟨hl, hls⟩, by rw [unlines_cons, heq]; simp⟩
  induction ts with
  | nil => exact ⟨[], List.forall_mem_nil _, rfl⟩
  | cons t ts ih =>
    obtain ⟨ls, hls, heq⟩ := hone t
    obtain ⟨ms, hms, heq'⟩ := ih
    refine ⟨ls ++ ms, List.forall_mem_append.mpr ⟨hls, hms⟩, ?_⟩
    rw [unlines_append, heq, heq', unlines_cons, List.append_assoc, List.singleton_append]

theorem lines_append_newline {t : Text} {c : Char} (h : t.getLast? = some c) (hn : c ≠ '\n')
    (hr : c ≠ '\r') : lines (t ++ ['\n']) = lines t := by
  unfold lines
  induction t using lines_induction with
  | single l hl =>
    have hne : l ≠ [] := fun hnil => absurd (hnil ▸ h) nofun
    have hlast : l.getLast? ≠ some '\r' := fun hl' => hr (Option.some.inj (h.symm.trans hl'))
    rw [inclusiveLines_append_newline hl, inclusiveLines_of_no_newline hl hne, List.map_cons,
      chompLine_append_newline hlast, List.map_singleton, chompLine_of_no_newline hl]
    rfl
  | cons l x hl ih =>
    have hx : x.getLast? = some c := by
      cases x with
      | nil =>
        rw [List.getLast?_append, List.getLast?_singleton, Option.some_or] at h
        exact absurd (Option.some.inj h).symm hn
      | cons d x =>
        rwa [List.getLast?_append_of_ne_nil _ (List.cons_ne_nil _ _), List.getLast?_cons_cons] at h
    rw [List.append_assoc, List.cons_append, inclusiveLines_append_newline hl,
      inclusiveLines_append_newline hl, List.map_cons, List.map_cons, ih hx]

theorem no_newline_of_mem_lines {t l : Text} (h : l ∈ lines t) : '\n' ∉ l := by
  induction t using lines_induction with
  | single t ht =>
    by_cases hne : t = []
    · subst hne
      exact absurd h List.not_mem_nil
    · rw [lines, inclusiveLines_of_no_newline ht hne, List.map_singleton, List.mem_singleton] at h
      rw [h, chompLine_of_no_newline ht]
      exact ht
  | cons x r hx ih =>
    rw [lines, inclusiveLines_append_newline hx, List.map_cons] at h
    rcases List.mem_cons.mp h with rfl | h
    · exact fun hn => hx ((chompLine_isPrefix x).subset hn)
    · exact ih h

/-! ## Carriage returns -/

/-- No carriage return in the text goes with a line feed, in it or behind it. -/
structure LineSafe (t : Text) : Prop where
  chain : t.IsChain fun a b => a = '\r' → b ≠ '\n'
  last : t.getLast? ≠ some '\r'

namespace LineSafe

variable {s t : Text}

theorem of_not_mem (h : '\r' ∉ t) : LineSafe t where
  chain := (List.isChain_isInfix t).imp fun _ _ hab ha _ =>
    h (hab.subset (ha ▸ List.mem_cons_self))
  last hl := h (List.mem_of_getLast? hl)

theorem of_isLine (h : IsLine t) : LineSafe t where
  chain := (List.isChain_isInfix t).imp fun _ _ hab _ hb =>
    h.no_newline (hab.subset (hb ▸ List.mem_cons_of_mem _ List.mem_cons_self))
  last := h.last

theorem append (hs : LineSafe s) (ht : LineSafe t) : LineSafe (s ++ t) where
  chain := by
    refine List.isChain_append.mpr ⟨hs.chain, ht.chain, ?_⟩
    rintro a ha b _ rfl
    exact absurd ha hs.last
  last h := by
    rw [List.getLast?_append] at h
    rcases Option.or_eq_some_iff.mp h with h | ⟨_, h⟩
    · exact ht.last h
    · exact hs.last h

theorem unlines {ls : List Text} (h : ∀ l ∈ ls, LineSafe l) : LineSafe (unlines ls) := by
  induction ls with
  | nil => exact of_not_mem List.not_mem_nil
  | cons l ls ih =>
    obtain ⟨hl, hls⟩ := List.forall_mem_cons.mp h
    rw [unlines_cons]
    exact hl.append (.append (s := ['\n']) (of_not_mem (by decide)) (ih hls))

theorem of_append_right (h : LineSafe (s ++ t)) : LineSafe t where
  chain := (List.isChain_append.mp h.chain).2.1
  last ht := h.last (by rw [List.getLast?_append, ht, Option.some_or])

theorem isLine (h : LineSafe (s ++ '\n' :: t)) (hs : '\n' ∉ s) : IsLine s where
  no_newline := hs
  last hl := (List.isChain_append.mp h.chain).2.2 _ hl _ rfl rfl rfl

theorem isLine_of_mem_lines (h : LineSafe t) {l : Text} (hl : l ∈ lines t) : IsLine l := by
  refine ⟨no_newline_of_mem_lines hl, ?_⟩
  induction t using lines_induction with
  | single t ht =>
    by_cases hne : t = []
    · subst hne
      exact absurd hl List.not_mem_nil
    · rw [lines, inclusiveLines_of_no_newline ht hne, List.map_singleton, List.mem_singleton,
        chompLine_of_no_newline ht] at hl
      rw [hl]
      exact h.last
  | cons x r hx ih =>
    have hline := h.isLine hx
    rw [lines, inclusiveLines_append_newline hx, List.map_cons,
      chompLine_append_newline hline.last] at hl
    rcases List.mem_cons.mp hl with rfl | hl
    · exact hline.last
    · exact ih (of_append_right (s := x ++ ['\n']) (by simpa using h)) hl

theorem trimEnd (h : LineSafe t) : LineSafe (trimEnd t) where
  chain := h.chain.prefix (trimEnd_isPrefix t)
  last hl := absurd (isBlank_getLast?_trimEnd hl) (by decide)

theorem not_infix (h : LineSafe t) : ¬['\r', '\n'] <:+: t := by
  intro hinfix
  have hpair := h.chain.infix hinfix
  exact List.isChain_pair.mp hpair rfl rfl

end LineSafe

theorem lines_ne_nil {t : Text} (h : t ≠ []) : lines t ≠ [] := by
  intro hnil
  have hflatten := flatten_inclusiveLines t
  rw [List.map_eq_nil_iff.mp hnil] at hflatten
  exact h hflatten.symm

/-- **The lines of a text make the text**, with a line feed between neighbours. -/
theorem join_lines {t : Text} (h : LineSafe t) (hlast : t.getLast? ≠ some '\n') :
    join ['\n'] (lines t) = t := by
  induction t using lines_induction with
  | single l hl =>
    by_cases hne : l = []
    · subst hne
      rfl
    · rw [lines, inclusiveLines_of_no_newline hl hne, List.map_singleton,
        chompLine_of_no_newline hl]
      simp [join]
  | cons l r hl ih =>
    have hr : r ≠ [] := by
      rintro rfl
      exact hlast (by simp)
    have hrlast : r.getLast? ≠ some '\n' := fun hr' => hlast (by
      rw [List.getLast?_append, List.getLast?_cons, hr']
      rfl)
    have hrest := ih (LineSafe.of_append_right (s := l ++ ['\n']) (by simpa using h)) hrlast
    have hlines : lines (l ++ '\n' :: r) = l :: lines r := by
      rw [lines, inclusiveLines_append_newline hl, List.map_cons,
        chompLine_append_newline (h.isLine hl).last]
      rfl
    obtain ⟨m, ms, hm⟩ := List.exists_cons_of_ne_nil (lines_ne_nil hr)
    unfold join at hrest ⊢
    rw [hlines, hm, List.intercalate_cons_cons, ← hm, hrest]
    simp

end SchemaTypes.Text
