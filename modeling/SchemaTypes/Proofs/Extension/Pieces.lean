import SchemaTypes.Proofs.Extension.Spans
import SchemaTypes.Proofs.Text.Trim

/-!
# Texts in pieces

A text that classes of a code have gone into is told in pieces: the classes, each known by its
span, and all else.

* `Piece`: a piece; `textOf`: the text of some pieces.
* `trimStartPieces`, `trimEndPieces`: pieces without the blanks at one end. No class is lost.
* `remainder`: what is left of a code, in pieces.
* **`textOf_remainder`**: its text is the code without the classes of the given names.
-/

namespace SchemaTypes

/-! ## Slices -/

namespace Text

variable {t : Text} {i j k : Nat}

theorem slice_append_slice (h : i ≤ j) (h' : j ≤ k) :
    t.slice i j ++ t.slice j k = t.slice i k := by
  unfold slice
  have hlen : k - i = (j - i) + (k - j) := by omega
  have hdrop : t.drop j = (t.drop i).drop (j - i) := by
    rw [List.drop_drop]
    congr 1
    omega
  rw [hlen, List.take_add, hdrop]

theorem slice_append_drop (h : i ≤ j) : t.slice i j ++ t.drop j = t.drop i := by
  unfold slice
  have hdrop : t.drop j = (t.drop i).drop (j - i) := by
    rw [List.drop_drop]
    congr 1
    omega
  rw [hdrop, List.take_append_drop]

theorem slice_succ {c : Char} (h : i ≤ j) (hc : t[j]? = some c) :
    t.slice i (j + 1) = t.slice i j ++ [c] := by
  have hone : t.slice j (j + 1) = [c] := by
    unfold slice
    rw [Nat.add_sub_cancel_left, List.take_one, List.head?_drop, hc]
    rfl
  rw [← hone, slice_append_slice h (Nat.le_succ j)]

end Text

/-! ## Classes -/

/-- The text of a class without the blanks around it. -/
def ClassSpan.text (code : Text) (s : ClassSpan) : Text :=
  Text.trim (code.slice s.start s.stop)

/-- A text that neither begins nor ends in a blank. -/
structure Solid (t : Text) : Prop where
  nonempty : t ≠ []
  trimStart : Text.trimStart t = t
  trimEnd : Text.trimEnd t = t

theorem trim_concat_brace (x : Text) :
    Text.trim (x ++ ['\x7d']) = Text.trimStart (x ++ ['\x7d']) ∧
      Solid (Text.trim (x ++ ['\x7d'])) := by
  have hbrace : Text.isBlank '\x7d' = false := by decide
  obtain ⟨y, hy⟩ : ∃ y, Text.trimStart (x ++ ['\x7d']) = y ++ ['\x7d'] := by
    by_cases hx : Text.trimStart x = []
    · rw [Text.trimStart_append_of_eq_nil hx]
      refine ⟨[], ?_⟩
      unfold Text.trimStart
      rw [List.dropWhile_cons_of_neg (by simp [hbrace])]
      rfl
    · exact ⟨_, Text.trimStart_append_of_ne_nil hx⟩
  have htrim : Text.trim (x ++ ['\x7d']) = y ++ ['\x7d'] := by
    unfold Text.trim
    rw [hy, Text.trimEnd_concat hbrace]
  rw [htrim, hy]
  refine ⟨rfl, by simp, ?_, Text.trimEnd_concat hbrace y⟩
  rw [← hy]
  exact List.dropWhile_idempotent _ _

namespace Spaced

variable {code : Text} {i : Nat} {spans : List ClassSpan}

/-- **The text of a class** and the blanks before it are the slice in which it stands. -/
theorem takeWhile_append_text {s : ClassSpan} (h : Spaced code i (s :: spans)) :
    (code.slice s.start s.stop).takeWhile Text.isBlank ++ s.text code =
      code.slice s.start s.stop := by
  obtain ⟨_, hs, hb, _⟩ := h
  have hslice : code.slice s.start s.stop = code.slice s.start s.bodyStop ++ ['\x7d'] :=
    Text.slice_succ hs hb
  unfold ClassSpan.text
  rw [hslice, (trim_concat_brace _).1, Text.takeWhile_append_trimStart]

theorem solid_text (h : Spaced code i spans) : ∀ s ∈ spans, Solid (s.text code) := by
  induction spans generalizing i with
  | nil => exact fun s hs => absurd hs List.not_mem_nil
  | cons a spans ih =>
    obtain ⟨_, ha, hb, hrest⟩ := h
    intro s hs
    rcases List.mem_cons.mp hs with rfl | hs
    · have hslice : code.slice s.start s.stop = code.slice s.start s.bodyStop ++ ['\x7d'] :=
        Text.slice_succ ha hb
      unfold ClassSpan.text
      rw [hslice]
      exact (trim_concat_brace _).2
    · exact ih hrest s hs

end Spaced

/-! ## Pieces -/

/-- A piece of a text. -/
inductive Piece where
  | other (text : Text)
  | declared (span : ClassSpan)

namespace Piece

/-- The text of a piece. -/
def text (code : Text) : Piece → Text
  | other t => t
  | declared s => s.text code

/-- The class that a piece is. -/
def span? : Piece → Option ClassSpan
  | other _ => none
  | declared s => some s

end Piece

/-- The text of some pieces. -/
def textOf (code : Text) (pieces : List Piece) : Text :=
  pieces.flatMap (Piece.text code)

/-- The classes among some pieces. -/
def spansIn (pieces : List Piece) : List ClassSpan :=
  pieces.filterMap Piece.span?

section Pieces

variable (code : Text) (p : Piece) (ps qs : List Piece)

@[simp] theorem textOf_cons : textOf code (p :: ps) = p.text code ++ textOf code ps := rfl

@[simp] theorem textOf_append : textOf code (ps ++ qs) = textOf code ps ++ textOf code qs :=
  List.flatMap_append

@[simp] theorem spansIn_other (t : Text) : spansIn (.other t :: ps) = spansIn ps := rfl

@[simp] theorem spansIn_declared (s : ClassSpan) :
    spansIn (.declared s :: ps) = s :: spansIn ps := rfl

@[simp] theorem spansIn_append : spansIn (ps ++ qs) = spansIn ps ++ spansIn qs :=
  List.filterMap_append

end Pieces

/-! ## Trimming -/

/-- Pieces without the blanks before the first class or other text. -/
def trimStartPieces : List Piece → List Piece
  | .other t :: ps =>
    if Text.trimStart t = [] then trimStartPieces ps else .other (Text.trimStart t) :: ps
  | ps => ps

/-- Pieces without the blanks behind the last class or other text. -/
def trimEndPieces : List Piece → List Piece
  | [] => []
  | .declared s :: ps => .declared s :: trimEndPieces ps
  | .other t :: ps =>
    if (trimEndPieces ps).isEmpty then
      if Text.trimEnd t = [] then [] else [.other (Text.trimEnd t)]
    else .other t :: trimEndPieces ps

@[simp] theorem spansIn_trimStartPieces (ps : List Piece) :
    spansIn (trimStartPieces ps) = spansIn ps := by
  induction ps with
  | nil => rfl
  | cons p ps ih =>
    cases p with
    | declared s => rfl
    | other t =>
      rw [trimStartPieces]
      split_ifs
      · exact ih
      · rfl

@[simp] theorem spansIn_trimEndPieces (ps : List Piece) :
    spansIn (trimEndPieces ps) = spansIn ps := by
  induction ps with
  | nil => rfl
  | cons p ps ih =>
    cases p with
    | declared s => exact congrArg (s :: ·) ih
    | other t =>
      rw [trimEndPieces, spansIn_other, ← ih]
      split_ifs with hnil
      · rw [List.isEmpty_iff.mp hnil]
      · rw [List.isEmpty_iff.mp hnil]
        rfl
      · rfl

section Trim

variable {code : Text} {ps : List Piece}

theorem textOf_trimStartPieces (h : ∀ s ∈ spansIn ps, Solid (s.text code)) :
    textOf code (trimStartPieces ps) = Text.trimStart (textOf code ps) := by
  induction ps with
  | nil => rfl
  | cons p ps ih =>
    cases p with
    | declared s =>
      have hs := h s List.mem_cons_self
      have hne : Text.trimStart (s.text code) ≠ [] := by
        rw [hs.trimStart]
        exact hs.nonempty
      show s.text code ++ textOf code ps = Text.trimStart (s.text code ++ textOf code ps)
      rw [Text.trimStart_append_of_ne_nil hne, hs.trimStart]
    | other t =>
      show _ = Text.trimStart (t ++ textOf code ps)
      rw [trimStartPieces]
      by_cases ht : Text.trimStart t = []
      · rw [if_pos ht, ih h, Text.trimStart_append_of_eq_nil ht]
      · rw [if_neg ht, Text.trimStart_append_of_ne_nil ht]
        rfl

/-- **The text of the pieces that are left.** There are none only if all were blank. -/
theorem textOf_trimEndPieces (h : ∀ s ∈ spansIn ps, Solid (s.text code)) :
    textOf code (trimEndPieces ps) = Text.trimEnd (textOf code ps) ∧
      (Text.trimEnd (textOf code ps) = [] → trimEndPieces ps = []) := by
  induction ps with
  | nil => exact ⟨rfl, fun _ => rfl⟩
  | cons p ps ih =>
    cases p with
    | declared s =>
      have hs := h s List.mem_cons_self
      obtain ⟨htext, _⟩ := ih fun a ha => h a (List.mem_cons_of_mem s ha)
      have htrim : Text.trimEnd (s.text code ++ textOf code ps) =
          s.text code ++ Text.trimEnd (textOf code ps) := by
        by_cases hnil : Text.trimEnd (textOf code ps) = []
        · rw [Text.trimEnd_append_of_eq_nil hnil, hnil, hs.trimEnd, List.append_nil]
        · exact Text.trimEnd_append_of_ne_nil hnil
      show s.text code ++ textOf code (trimEndPieces ps) =
        Text.trimEnd (s.text code ++ textOf code ps) ∧
          (Text.trimEnd (s.text code ++ textOf code ps) = [] → _)
      rw [htrim, htext]
      exact ⟨rfl, fun hnil => absurd (List.append_eq_nil_iff.mp hnil).1 hs.nonempty⟩
    | other t =>
      obtain ⟨htext, hblank⟩ := ih h
      show _ = Text.trimEnd (t ++ textOf code ps) ∧
        (Text.trimEnd (t ++ textOf code ps) = [] → _)
      rw [trimEndPieces]
      by_cases hnil : Text.trimEnd (textOf code ps) = []
      · rw [Text.trimEnd_append_of_eq_nil hnil, hblank hnil, List.isEmpty_nil, if_pos rfl]
        by_cases ht : Text.trimEnd t = []
        · rw [if_pos ht]
          exact ⟨ht.symm, fun _ => rfl⟩
        · rw [if_neg ht]
          exact ⟨List.append_nil _, fun h' => absurd h' ht⟩
      · have hne : (trimEndPieces ps).isEmpty ≠ true := by
          intro hempty
          rw [List.isEmpty_iff.mp hempty] at htext
          exact hnil htext.symm
        rw [Text.trimEnd_append_of_ne_nil hnil, if_neg hne, textOf_cons, htext]
        exact ⟨rfl, fun h' => absurd (List.append_eq_nil_iff.mp h').2 hnil⟩

end Trim

theorem trimEndPieces_append_declared (ps qs : List Piece) (s : ClassSpan) :
    trimEndPieces (ps ++ .declared s :: qs) = ps ++ .declared s :: trimEndPieces qs := by
  induction ps with
  | nil => rfl
  | cons p ps ih =>
    cases p with
    | declared a => exact congrArg (.declared a :: ·) ih
    | other t =>
      rw [List.cons_append, trimEndPieces, ih, if_neg (by simp)]
      rfl

/-! ## What is left of a code -/

/-- A code from a position on without the classes of the given names, in pieces. -/
def remainder (names : List Text) (code : Text) (position : Nat) : List ClassSpan → List Piece
  | [] => [.other (code.drop position)]
  | s :: spans =>
    if names.contains s.name then
      .other (code.slice position s.start) :: remainder names code s.stop spans
    else
      .other (code.slice position s.start) ::
        .other ((code.slice s.start s.stop).takeWhile Text.isBlank) ::
          .declared s :: remainder names code s.stop spans

variable {names : List Text} {code : Text} {i j : Nat} {spans : List ClassSpan}

theorem slice_append_without (h : Spaced code j spans) (hij : i ≤ j) :
    code.slice i j ++ ExtensionIndex.without names code j spans =
      ExtensionIndex.without names code i spans := by
  induction spans generalizing i j with
  | nil => exact Text.slice_append_drop hij
  | cons s spans ih =>
    obtain ⟨hj, hs, _, hrest⟩ := h
    have hstop : j ≤ s.stop := by
      unfold ClassSpan.stop
      omega
    rw [ExtensionIndex.without, ExtensionIndex.without]
    by_cases hname : s.name ∈ names
    · rw [if_pos hname, if_pos hname, ← List.append_assoc, Text.slice_append_slice hij hj]
    · rw [if_neg hname, if_neg hname]
      exact ih (hrest.mono hstop) hij

/-- **The text of what is left.** -/
theorem textOf_remainder (h : Spaced code i spans) :
    textOf code (remainder names code i spans) = ExtensionIndex.without names code i spans := by
  induction spans generalizing i with
  | nil => exact List.append_nil _
  | cons s spans ih =>
    have htext := h.takeWhile_append_text
    obtain ⟨hi, hs, _, hrest⟩ := h
    have hle : s.start ≤ s.stop := Nat.le_succ_of_le hs
    have hstop : i ≤ s.stop := Nat.le_trans hi hle
    rw [remainder, ExtensionIndex.without]
    by_cases hname : s.name ∈ names
    · rw [if_pos (List.contains_iff_mem.mpr hname), if_pos hname, textOf_cons, ih hrest]
      rfl
    · rw [if_neg (mt List.contains_iff_mem.mp hname), if_neg hname, textOf_cons, textOf_cons,
        textOf_cons, ih hrest]
      show code.slice i s.start ++ ((code.slice s.start s.stop).takeWhile Text.isBlank ++
        (s.text code ++ ExtensionIndex.without names code s.stop spans)) = _
      rw [← List.append_assoc _ (s.text code), htext, ← List.append_assoc,
        Text.slice_append_slice hi hle]
      exact slice_append_without hrest hstop

/-- **The classes that are left** are those of other names. -/
theorem spansIn_remainder (names : List Text) (code : Text) (i : Nat) (spans : List ClassSpan) :
    spansIn (remainder names code i spans) = spans.filter (·.name ∉ names) := by
  induction spans generalizing i with
  | nil => rfl
  | cons s spans ih =>
    rw [remainder]
    by_cases hname : s.name ∈ names
    · rw [if_pos (List.contains_iff_mem.mpr hname), spansIn_other, ih,
        List.filter_cons_of_neg (by simpa using hname)]
    · rw [if_neg (mt List.contains_iff_mem.mp hname), spansIn_other, spansIn_other,
        spansIn_declared, ih, List.filter_cons_of_pos (by simpa using hname)]

end SchemaTypes
