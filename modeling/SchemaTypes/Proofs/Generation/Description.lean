import SchemaTypes.Declaration.Collect
import SchemaTypes.Proofs.Generation.Lines

/-!
# Descriptions in comments

A description cannot end the comment that it stands in, and it cannot change how many lines the
comment has.

* `Unclosed.closes_iff`: where the mark that closes comments stands in a text.
* `SolidLine`: no line feed is in the line, and no blank ends it.
* `solidLine_docComment`: so are all lines of a comment.
* `exists_unclosed_docComment`: no comment ends in front of the last line of a comment.
* **`docComment_closed_once`**: what is written of a description.
-/

namespace SchemaTypes

open Text (IsLine)

/-! ## The mark that closes comments -/

theorem Unclosed.not_infix {x : Text} (h : Unclosed x) : ¬['*', '/'] <:+: x := by
  intro hinfix
  have hpair := h.infix hinfix
  exact List.isChain_pair.mp hpair ⟨rfl, rfl⟩

/-- **A comment that is closed once**: behind a text that does not close it there is one place for
the mark. -/
theorem Unclosed.closes_iff {x : Text} (h : Unclosed (x ++ ['*'])) (behind : Text) :
    (∃ before, x ++ ['*', '/', '\n'] = before ++ ['*', '/'] ++ behind) ↔ behind = ['\n'] := by
  constructor
  · rintro ⟨before, heq⟩
    have hsplit : (x ++ ['*']) ++ ['/', '\n'] = (before ++ ['*', '/']) ++ behind := by
      rw [← heq]
      simp
    rcases List.append_eq_append_iff.mp hsplit with ⟨front, hfront, hbehind⟩ | ⟨front, hfront, -⟩
    · -- the mark goes on behind the star: it takes the slash and no more
      cases front with
      | nil =>
        rw [List.append_nil] at hfront
        exact absurd ⟨before, [], by rw [List.append_nil, hfront]⟩ h.not_infix
      | cons c front =>
        obtain ⟨rfl, hrest⟩ := List.cons.inj hbehind
        cases front with
        | nil => exact hrest.symm
        | cons d front =>
          obtain ⟨rfl, htail⟩ := List.cons.inj hrest
          have hnil : front ++ behind = [] := htail.symm
          obtain ⟨rfl, -⟩ := List.append_eq_nil_iff.mp hnil
          have hlast := congrArg List.getLast? hfront
          simp at hlast
    · exact absurd ⟨before, front, hfront.symm⟩ h.not_infix
  · rintro rfl
    exact ⟨x, by simp⟩

/-! ## Lines of a comment -/

/-- No line feed is in the line, and no blank ends it. -/
structure SolidLine (l : Text) : Prop where
  no_newline : '\n' ∉ l
  last : ∃ c, l.getLast? = some c ∧ Text.isBlank c = false

namespace SolidLine

variable {x l : Text}

theorem isLine (h : SolidLine l) : IsLine l where
  no_newline := h.no_newline
  last hr := by
    obtain ⟨c, hc, hblank⟩ := h.last
    obtain rfl := Option.some.inj (hc.symm.trans hr)
    exact absurd hblank (by decide)

theorem append (hx : '\n' ∉ x) (h : SolidLine l) : SolidLine (x ++ l) where
  no_newline := by simp [hx, h.no_newline]
  last := by
    obtain ⟨c, hc, hblank⟩ := h.last
    exact ⟨c, by simp [hc], hblank⟩

end SolidLine

theorem Blank.no_newline {indent : Text} (h : Blank indent) : '\n' ∉ indent := by
  intro hn
  exact absurd (h _ hn) (by decide)

theorem getLast?_commentContent (line : Text) :
    (commentContent line).getLast? = (Text.trimEnd line).getLast? := by
  have himage : "*\\/".toList = ['*', '\\'] ++ ['/'] := by decide
  rw [commentContent, Text.ofString_eq, himage, getLast?_replaceAll]

theorem solidLine_commentContent {line : Text} (hn : '\n' ∉ line) (hne : commentContent line ≠ []) :
    SolidLine (commentContent line) where
  no_newline := (isLine_commentContent hn).no_newline
  last := by
    obtain ⟨c, hc⟩ := Option.ne_none_iff_exists'.mp (mt List.getLast?_eq_none_iff.mp hne)
    refine ⟨c, hc, ?_⟩
    rw [getLast?_commentContent] at hc
    exact Text.isBlank_getLast?_trimEnd hc

theorem solidLine_commentLine {indent line : Text} (h : Blank indent) (hn : '\n' ∉ line) :
    SolidLine (commentLine indent line) := by
  unfold commentLine
  split
  · exact .append h.no_newline (by rw [Text.ofString_eq]; exact ⟨by decide, '*', by decide⟩)
  · next hne =>
    have hmark : '\n' ∉ (" * " : Text) := by simp [Text.ofString_eq]
    rw [List.append_assoc]
    exact .append h.no_newline (.append hmark (solidLine_commentContent hn hne))

/-- **No line of a comment ends in a blank**, and all are lines by themselves. -/
theorem solidLine_docComment {indent : Text} (h : Blank indent) (t : Text) :
    ∀ l ∈ docComment indent (some t), SolidLine l := by
  intro l hl
  simp only [docComment, List.mem_append, List.mem_cons, List.mem_map, List.not_mem_nil,
    or_false] at hl
  rcases hl with (rfl | ⟨line, hline, rfl⟩) | rfl
  · exact .append h.no_newline (by rw [Text.ofString_eq]; exact ⟨by decide, '*', by decide⟩)
  · exact solidLine_commentLine h (Text.no_newline_of_mem_lines hline)
  · exact .append h.no_newline (by rw [Text.ofString_eq]; exact ⟨by decide, '/', by decide⟩)

/-! ## Comments -/

/-- **No comment ends in front of the last line** of a comment. -/
theorem exists_unclosed_docComment {indent : Text} (h : Blank indent) (t : Text) :
    ∃ x, Unclosed (x ++ ['*']) ∧
      unlines (docComment indent (some t)) = x ++ ['*', '/', '\n'] := by
  obtain ⟨x, hx, heq⟩ := unlines_docComment h t
  -- the comment opens with two stars, so nothing closes it with the first one
  have hstar : x.head? = some '*' := by
    have hopen : unlines (docComment indent (some t)) =
        indent ++ '/' :: '*' :: '*' :: '\n' ::
          unlines ((Text.lines t).map (commentLine indent) ++ [indent ++ " */"]) := by
      simp [docComment, Text.ofString_eq]
    rw [hopen, List.append_assoc, List.append_right_inj] at heq
    cases x with
    | nil => simp at heq
    | cons c x =>
      have hhead := congrArg (fun l => l[2]?) heq
      simpa using hhead.symm
  refine ⟨indent ++ ('/' :: '*' :: x), ?_, ?_⟩
  · have hmarks : Unclosed (['/', '*'] ++ (x ++ ['*'])) := by
      refine .append (by simp [Unclosed]) hx (.inr ?_)
      simp [hstar]
    have hall := h.unclosed.append hmarks (.inl ?_)
    · simpa using hall
    · intro hlast
      exact absurd (h _ (List.mem_of_getLast? hlast)) (by decide)
  · rw [heq]
    simp

theorem describe_some (d : Text) :
    describe (some d) = if Text.trim d = [] then none else some (Text.trim d) := by
  unfold describe
  by_cases h : Text.trim d = [] <;> simp [h]

/-- **What is written of a description.** Nothing, if it is blank. Otherwise a comment with a line
for each of its lines, whatever stands in them: the comment is opened in the first line and closed
in the last one and nowhere else, and no line ends in a blank. -/
theorem docComment_closed_once (n : Nat) (d : Text) :
    let indent := List.replicate n ' '
    let written := unlines (docComment indent (describe (some d)))
    if Text.trim d = [] then written = []
    else
      (Text.lines written).head? = some (indent ++ "/**") ∧
        (Text.lines written).getLast? = some (indent ++ " */") ∧
        (Text.lines written).length = (Text.lines (Text.trim d)).length + 2 ∧
        (∀ behind, (∃ before, written = before ++ "*/" ++ behind) ↔ behind = "\n") ∧
        ∀ line ∈ Text.lines written, ∃ c, line.getLast? = some c ∧ Text.isBlank c = false := by
  intro indent written
  have hindent : Blank indent := fun c hc => List.eq_of_mem_replicate hc
  have hdescribe := describe_some d
  split_ifs with hblank
  · rw [if_pos hblank] at hdescribe
    show unlines (docComment indent (describe (some d))) = []
    rw [hdescribe]
    rfl
  · rw [if_neg hblank] at hdescribe
    have hwritten : written = unlines (docComment indent (some (Text.trim d))) := by
      rw [← hdescribe]
    have hsolid := solidLine_docComment hindent (Text.trim d)
    have hlines : Text.lines written = docComment indent (some (Text.trim d)) := by
      rw [hwritten, Text.lines_unlines fun l hl => (hsolid l hl).isLine]
    rw [hlines]
    refine ⟨rfl, ?_, ?_, fun behind => ?_, fun l hl => (hsolid l hl).last⟩
    · exact List.getLast?_concat
    · simp [docComment]
    · obtain ⟨x, hx, heq⟩ := exists_unclosed_docComment hindent (Text.trim d)
      rw [hwritten, heq, Text.ofString_eq, Text.ofString_eq]
      exact hx.closes_iff behind

/-- Marks that close comments, an empty line and blanks at the end of lines. -/
example : docComment [] (describe (some " no */ end **/ \r\n\n*/ ")) =
    ["/**", " * no *\\/ end **\\/", " *", " * *\\/", " */"] := by
  cbv

end SchemaTypes
