import SchemaTypes.Generation.Comment
import SchemaTypes.Proofs.Scan.Neutral

/-!
# Comments of descriptions

A comment ends where it is written to end, whatever the description is.

* `unclosed_commentContent`: no comment ends in a line of a description.
* `unlines_docComment`: a comment with its marks in view.
* **`passes_docComment`**: the comment of a description is passed.
-/

namespace SchemaTypes

/-! ## Contents -/

theorem Unclosed.append {x y : Text} (hx : Unclosed x) (hy : Unclosed y)
    (h : x.getLast? ≠ some '*' ∨ y.head? ≠ some '/') : Unclosed (x ++ y) := by
  refine List.isChain_append.mpr ⟨hx, hy, ?_⟩
  rintro a ha b hb ⟨rfl, rfl⟩
  rcases h with h | h
  · exact h ha
  · exact h hb

theorem head?_replaceAll {a b : Char} {image : Text} (c : Char) (r : Text) :
    (Text.replaceAll a b (a :: image) (c :: r)).head? = some c := by
  cases r with
  | nil => rfl
  | cons d r =>
    rw [Text.replaceAll]
    split
    · next h => rw [h.1]; rfl
    · rfl

/-- **Every star is parted from a slash.** -/
theorem unclosed_replaceAll (t : Text) : Unclosed (Text.replaceAll '*' '/' ['*', '\\', '/'] t) := by
  fun_induction Text.replaceAll '*' '/' ['*', '\\', '/'] t with
  | case1 => exact .nil
  | case2 c => exact .singleton c
  | case3 c d r h ih =>
    exact .append (x := ['*', '\\', '/']) (by simp [Unclosed]) ih (.inl (by simp))
  | case4 c d r h ih =>
    refine .append (x := [c]) (.singleton c) ih ?_
    rw [head?_replaceAll]
    by_cases hc : c = '*'
    · exact .inr fun hd => h ⟨hc, Option.some.inj hd⟩
    · exact .inl fun hs => hc (Option.some.inj hs)

theorem unclosed_commentContent (line : Text) : Unclosed (commentContent line) := by
  rw [commentContent, Text.ofString_eq]
  exact unclosed_replaceAll _

/-! ## Comments -/

/-- An indent that consists of blanks. -/
def Blank (indent : Text) : Prop :=
  ∀ c ∈ indent, c = ' '

theorem Blank.unclosed {indent : Text} (h : Blank indent) : Unclosed indent := by
  rw [List.eq_replicate_of_mem h]
  exact List.isChain_replicate_of_rel _ (by decide)

theorem Blank.inert {indent : Text} (h : Blank indent) : Inert indent := by
  intro c hc
  rw [h c hc]
  decide

theorem Blank.head?_ne {indent : Text} (h : Blank indent) : indent.head? ≠ some '/' := by
  intro hc
  exact absurd (h '/' (List.mem_of_mem_head? hc)) (by decide)

theorem unclosed_commentLine {indent : Text} (h : Blank indent) (line : Text) :
    Unclosed (commentLine indent line) ∧ (commentLine indent line).head? = some ' ' := by
  have hhead : ∀ x : Text, (indent ++ ' ' :: x).head? = some ' ' := fun x => by
    cases indent with
    | nil => rfl
    | cons c r => rw [h c List.mem_cons_self]; rfl
  unfold commentLine
  split
  · rw [Text.ofString_eq]
    exact ⟨h.unclosed.append (by simp [Unclosed]) (.inr (by simp)), hhead _⟩
  · rw [Text.ofString_eq, List.append_assoc]
    refine ⟨h.unclosed.append (.append ?_ (unclosed_commentContent line) (.inl (by simp)))
      (.inr (by simp)), hhead _⟩
    simp [Unclosed]

theorem unclosed_unlines {ls : List Text}
    (h : ∀ l ∈ ls, Unclosed l ∧ l.head? = some ' ') :
    Unclosed (unlines ls) ∧ (unlines ls).head? ≠ some '/' := by
  induction ls with
  | nil => exact ⟨.nil, by simp⟩
  | cons l ls ih =>
    obtain ⟨hl, hhead⟩ := h l List.mem_cons_self
    obtain ⟨hls, hne⟩ := ih fun m hm => h m (List.mem_cons_of_mem _ hm)
    rw [unlines_cons]
    have hbreak : Unclosed (['\n'] ++ unlines ls) :=
      .append (.singleton _) hls (.inl (by simp))
    refine ⟨hl.append hbreak (.inr (by simp)), ?_⟩
    rw [List.head?_append, hhead]
    simp

theorem unlines_docComment {indent : Text} (h : Blank indent) (t : Text) :
    ∃ x, Unclosed (x ++ ['*']) ∧
      unlines (docComment indent (some t)) =
        indent ++ ('/' :: '*' :: x ++ ['*', '/']) ++ ['\n'] := by
  set ls := (Text.lines t).map (commentLine indent) with hls
  have hlines : ∀ l ∈ ls, Unclosed l ∧ l.head? = some ' ' := by
    intro l hl
    obtain ⟨line, _, rfl⟩ := List.mem_map.mp hl
    exact unclosed_commentLine h line
  obtain ⟨hu, hne⟩ := unclosed_unlines hlines
  refine ⟨['*', '\n'] ++ unlines ls ++ indent ++ [' '], ?_, ?_⟩
  · refine .append (.append (.append (.append ?_ hu (.inl (by simp))) h.unclosed (.inr ?_)) ?_
      (.inr (by simp))) (.singleton _) (.inr (by simp))
    · simp [Unclosed]
    · exact h.head?_ne
    · exact .singleton _
  · simp [docComment, Text.ofString_eq, ← hls]

/-- **The comment of a description** goes from the start of a line to the start of a line. -/
theorem passes_docComment (d : Option Text) (s : ScanState) :
    Passes (unlines (docComment [] d)) s.fresh s.fresh := by
  cases d with
  | none => exact .refl _
  | some t =>
    have hblank : Blank [] := fun _ h => absurd h (by simp)
    obtain ⟨x, hx, e⟩ := unlines_docComment hblank t
    rw [e]
    exact (passes_comment rfl x hx).trans (passes_newline s)

theorem neutral_docComment {indent : Text} (h : Blank indent) (d : Option Text) :
    Neutral (unlines (docComment indent d)) := by
  cases d with
  | none => exact neutral_nil
  | some t =>
    obtain ⟨x, hx, e⟩ := unlines_docComment h t
    rw [e]
    exact ((neutral_inert h.inert).append (neutral_comment hx)).append (neutral_inert (by decide))

end SchemaTypes
