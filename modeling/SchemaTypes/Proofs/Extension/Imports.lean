import Mathlib
import SchemaTypes.Extension.Imports
import SchemaTypes.Generation.Comment

/-!
# Where the lines of a code go

Every line of a code goes to one of two sides, and the lines of a side keep their order: the lines
of complete import statements and the references go in front, all others stay.

* `runsAt`: an import statement runs when a line begins.
* `IsStatement`, `NeverEnds`: import statements that are complete and that are not.
* `IsImportLine`, `IsOpenLine`, `IsBodyLine`: what becomes of the line at a position.
* `ofLines_drop`: the split of the lines from a position on.
* **`ofCode_divides`**: the split of a code.
-/

namespace SchemaTypes

open ImportSplit (ofLines ofCode)

/-! ## Lines at positions -/

/-- Is the line at the position, without the blanks around it, of a kind? -/
def lineIs (kind : Text → Bool) (lines : List Text) (k : Nat) : Bool :=
  lines[k]?.any fun l => kind (Text.trim l)

/-- Does an import statement run when the line at the position begins? It does if it ran before or
began with the line before, and this line did not end it. -/
def runsAt (lines : List Text) : Nat → Bool
  | 0 => false
  | k + 1 => (runsAt lines k || lineIs startsImport lines k) && !lineIs endsImport lines k

/-- A complete import statement runs from one line through another: it begins where none runs, and
the last line is the first from there on that can end it. -/
structure IsStatement (lines : List Text) (first last : Nat) : Prop where
  outside : runsAt lines first = false
  starts : lineIs startsImport lines first = true
  le : first ≤ last
  ends : lineIs endsImport lines last = true
  runs : ∀ k, first ≤ k → k < last → lineIs endsImport lines k = false

/-- An import statement begins with the line, where none runs, and no line ends it. -/
structure NeverEnds (lines : List Text) (first : Nat) : Prop where
  outside : runsAt lines first = false
  starts : lineIs startsImport lines first = true
  runs : ∀ k, first ≤ k → lineIs endsImport lines k = false

/-- The line at the position is an import: a reference where no statement runs, or a line of a
complete statement. -/
def IsImportLine (lines : List Text) (k : Nat) : Prop :=
  (runsAt lines k = false ∧ lineIs isReference lines k = true) ∨
    ∃ first last, IsStatement lines first last ∧ first ≤ k ∧ k ≤ last

/-- The line at the position belongs to a statement that never ends. -/
def IsOpenLine (lines : List Text) (k : Nat) : Prop :=
  k < lines.length ∧ ∃ first, NeverEnds lines first ∧ first ≤ k

/-- All other lines. -/
def IsBodyLine (lines : List Text) (k : Nat) : Prop :=
  k < lines.length ∧ ¬IsImportLine lines k ∧ ¬IsOpenLine lines k

section Positions

variable {kind : Text → Bool} {lines : List Text} {line : Text} {k : Nat}

theorem lineIs_of_getElem? (h : lines[k]? = some line) :
    lineIs kind lines k = kind (Text.trim line) := by
  rw [lineIs, h, Option.any_some]

theorem startsImport_of_isReference {t : Text} (h : isReference t = true) :
    startsImport t = false := by
  unfold isReference Text.startsWith at h
  unfold startsImport Text.startsWith
  rw [Text.ofString_eq] at h ⊢
  rw [Text.ofString_eq]
  obtain ⟨rest, rfl⟩ := List.isPrefixOf_iff_prefix.mp h
  rfl

theorem exists_first_of_runsAt (h : runsAt lines k = true) :
    ∃ first, first < k ∧ runsAt lines first = false ∧ lineIs startsImport lines first = true ∧
      ∀ j, first ≤ j → j < k → lineIs endsImport lines j = false := by
  induction k with
  | zero => exact absurd h (by simp [runsAt])
  | succ k ih =>
    simp only [runsAt, Bool.and_eq_true, Bool.or_eq_true, Bool.not_eq_true'] at h
    obtain ⟨hbefore, hk⟩ := h
    cases hruns : runsAt lines k with
    | true =>
      obtain ⟨first, hlt, hout, hstarts, hall⟩ := ih hruns
      refine ⟨first, Nat.lt_succ_of_lt hlt, hout, hstarts, fun j hj hjk => ?_⟩
      rcases Nat.lt_succ_iff_lt_or_eq.mp hjk with hjk | rfl
      · exact hall j hj hjk
      · exact hk
    | false =>
      rw [hruns] at hbefore
      refine ⟨k, Nat.lt_succ_self k, hruns, hbefore.resolve_left (by simp), fun j hj hjk => ?_⟩
      obtain rfl : j = k := by omega
      exact hk

theorem runsAt_of_starts {first : Nat} (hstarts : lineIs startsImport lines first = true)
    (hlt : first < k) (hall : ∀ j, first ≤ j → j < k → lineIs endsImport lines j = false) :
    runsAt lines k = true := by
  induction k with
  | zero => exact absurd hlt (Nat.not_lt_zero first)
  | succ k ih =>
    have hk := hall k (Nat.le_of_lt_succ hlt) (Nat.lt_succ_self k)
    simp only [runsAt, hk, Bool.not_false, Bool.and_true, Bool.or_eq_true]
    rcases Nat.lt_succ_iff_lt_or_eq.mp hlt with hlt | rfl
    · exact .inl (ih hlt fun j hj hjk => hall j hj (Nat.lt_succ_of_lt hjk))
    · exact .inr hstarts

end Positions

/-! ## Lines of statements -/

/-- Does a line from the position on end a statement? -/
def endsFrom (lines : List Text) (k : Nat) : Bool :=
  (lines.drop k).any fun l => endsImport (Text.trim l)

/-- Does a statement run with the line at the position? -/
def insideAt (lines : List Text) (k : Nat) : Bool :=
  runsAt lines k || lineIs startsImport lines k

section Statements

variable {lines : List Text} {k : Nat}

theorem endsFrom_iff :
    endsFrom lines k = true ↔ ∃ j, k ≤ j ∧ lineIs endsImport lines j = true := by
  unfold endsFrom lineIs
  simp only [List.any_eq_true, List.mem_iff_getElem?, List.getElem?_drop, Option.any_eq_true]
  constructor
  · rintro ⟨l, ⟨i, hi⟩, hl⟩
    exact ⟨k + i, Nat.le_add_right k i, l, hi, hl⟩
  · rintro ⟨j, hj, l, hl, hends⟩
    exact ⟨l, ⟨j - k, by rwa [Nat.add_sub_cancel' hj]⟩, hends⟩

theorem exists_first_of_insideAt (h : insideAt lines k = true) :
    ∃ first, first ≤ k ∧ runsAt lines first = false ∧ lineIs startsImport lines first = true ∧
      ∀ j, first ≤ j → j < k → lineIs endsImport lines j = false := by
  cases hruns : runsAt lines k with
  | true =>
    obtain ⟨first, hlt, hrest⟩ := exists_first_of_runsAt hruns
    exact ⟨first, Nat.le_of_lt hlt, hrest⟩
  | false =>
    rw [insideAt, hruns, Bool.false_or] at h
    exact ⟨k, Nat.le_refl k, hruns, h, fun j hj hjk => by omega⟩

theorem insideAt_of_starts {first : Nat} (hstarts : lineIs startsImport lines first = true)
    (hle : first ≤ k) (hall : ∀ j, first ≤ j → j < k → lineIs endsImport lines j = false) :
    insideAt lines k = true := by
  rw [insideAt, Bool.or_eq_true]
  rcases Nat.lt_or_eq_of_le hle with hlt | rfl
  · exact .inl (runsAt_of_starts hstarts hlt hall)
  · exact .inr hstarts

/-- **A line belongs to a complete statement** if one runs with it and a line from it on ends it. -/
theorem exists_isStatement_iff :
    (∃ first last, IsStatement lines first last ∧ first ≤ k ∧ k ≤ last) ↔
      insideAt lines k = true ∧ endsFrom lines k = true := by
  constructor
  · rintro ⟨first, last, h, hfirst, hlast⟩
    exact ⟨insideAt_of_starts h.starts hfirst fun j hj hjk =>
      h.runs j hj (Nat.lt_of_lt_of_le hjk hlast), endsFrom_iff.mpr ⟨last, hlast, h.ends⟩⟩
  · rintro ⟨hinside, hends⟩
    obtain ⟨first, hfirst, hout, hstarts, hall⟩ := exists_first_of_insideAt hinside
    have hexists := endsFrom_iff.mp hends
    -- the line that ends it is the first from the position on that can
    obtain ⟨hlast, hlastEnds⟩ := Nat.find_spec hexists
    refine ⟨first, Nat.find hexists, ⟨hout, hstarts, Nat.le_trans hfirst hlast, hlastEnds,
      fun j hj hjlast => ?_⟩, hfirst, hlast⟩
    rcases Nat.lt_or_ge j k with hjk | hkj
    · exact hall j hj hjk
    · exact Bool.eq_false_iff.mpr fun h => Nat.find_min hexists hjlast ⟨hkj, h⟩

/-- **A line belongs to a statement that never ends** if one runs with it and no line from it on
ends it. -/
theorem exists_neverEnds_iff :
    (∃ first, NeverEnds lines first ∧ first ≤ k) ↔
      insideAt lines k = true ∧ endsFrom lines k = false := by
  rw [← Bool.not_eq_true (endsFrom lines k), endsFrom_iff]
  constructor
  · rintro ⟨first, h, hfirst⟩
    refine ⟨insideAt_of_starts h.starts hfirst fun j hj _ => h.runs j hj, ?_⟩
    rintro ⟨j, hj, hends⟩
    exact absurd hends (by simp [h.runs j (Nat.le_trans hfirst hj)])
  · rintro ⟨hinside, hnone⟩
    obtain ⟨first, hfirst, hout, hstarts, hall⟩ := exists_first_of_insideAt hinside
    refine ⟨first, ⟨hout, hstarts, fun j hj => ?_⟩, hfirst⟩
    rcases Nat.lt_or_ge j k with hjk | hkj
    · exact hall j hj hjk
    · exact Bool.eq_false_iff.mpr fun h => hnone ⟨j, hkj, h⟩

theorem isImportLine_iff :
    IsImportLine lines k ↔
      (runsAt lines k = false ∧ lineIs isReference lines k = true) ∨
        (insideAt lines k = true ∧ endsFrom lines k = true) := by
  unfold IsImportLine
  rw [exists_isStatement_iff]

theorem isOpenLine_iff :
    IsOpenLine lines k ↔
      k < lines.length ∧ insideAt lines k = true ∧ endsFrom lines k = false := by
  unfold IsOpenLine
  rw [exists_neverEnds_iff]

instance (lines : List Text) : DecidablePred (IsImportLine lines) :=
  fun _ => decidable_of_iff' _ isImportLine_iff

instance (lines : List Text) : DecidablePred (IsOpenLine lines) :=
  fun _ => decidable_of_iff' _ isOpenLine_iff

instance (lines : List Text) : DecidablePred (IsBodyLine lines) :=
  fun k => inferInstanceAs
    (Decidable (k < lines.length ∧ ¬IsImportLine lines k ∧ ¬IsOpenLine lines k))

end Statements

/-! ## The line at a position -/

/-- The lines at the positions with a property, where positions are counted from a number. -/
def linesFrom (p : Nat → Prop) [DecidablePred p] (k : Nat) (ls : List Text) : List Text :=
  ((ls.zipIdx k).filter fun x => p x.2).map Prod.fst

/-- The lines at the positions with a property. -/
def linesAt (p : Nat → Prop) [DecidablePred p] (ls : List Text) : List Text :=
  linesFrom p 0 ls

section LinesFrom

variable {p : Nat → Prop} [DecidablePred p] {k : Nat}

@[simp] theorem linesFrom_nil : linesFrom p k [] = [] := rfl

theorem linesFrom_cons_of_pos (h : p k) (l : Text) (ls : List Text) :
    linesFrom p k (l :: ls) = l :: linesFrom p (k + 1) ls := by
  simp [linesFrom, h]

theorem linesFrom_cons_of_neg (h : ¬p k) (l : Text) (ls : List Text) :
    linesFrom p k (l :: ls) = linesFrom p (k + 1) ls := by
  simp [linesFrom, h]

end LinesFrom

section Kinds

variable {lines : List Text} {k : Nat}

theorem insideAt_of_reference (hout : runsAt lines k = false)
    (href : lineIs isReference lines k = true) : insideAt lines k = false := by
  obtain ⟨line, hline, href⟩ := (Option.any_eq_true _ _).mp href
  rw [insideAt, hout, lineIs_of_getElem? hline, startsImport_of_isReference href]
  rfl

theorem IsOpenLine.not_isImportLine (h : IsOpenLine lines k) : ¬IsImportLine lines k := by
  obtain ⟨_, hinside, hends⟩ := isOpenLine_iff.mp h
  rw [isImportLine_iff]
  rintro (⟨hout, href⟩ | ⟨_, hends'⟩)
  · exact absurd hinside (by simp [insideAt_of_reference hout href])
  · exact absurd hends' (by simp [hends])

/-- What is neither in a statement nor a reference is a line of the body. -/
theorem isBodyLine_of_plain (hk : k < lines.length) (hinside : insideAt lines k = false)
    (href : lineIs isReference lines k = false) : IsBodyLine lines k := by
  refine ⟨hk, ?_, ?_⟩
  · rw [isImportLine_iff, hinside, href]
    simp
  · rw [isOpenLine_iff, hinside]
    simp

/-- Behind a line of a statement that never ends there are only such lines. -/
theorem IsOpenLine.mono (h : IsOpenLine lines k) {j : Nat} (hkj : k ≤ j) (hj : j < lines.length) :
    IsOpenLine lines j := by
  obtain ⟨_, first, hfirst, hle⟩ := h
  exact ⟨hj, first, hfirst, Nat.le_trans hle hkj⟩

theorem runsAt_succ : runsAt lines (k + 1) = (insideAt lines k && !lineIs endsImport lines k) :=
  rfl

theorem endsFrom_eq {line : Text} {rest : List Text} (h : lines.drop k = line :: rest) :
    endsFrom lines k = (endsImport (Text.trim line) || endsFrom lines (k + 1)) := by
  unfold endsFrom
  rw [← List.drop_drop, h]
  rfl

end Kinds

/-! ## The split from a position on -/

/-- What the lines from a position on are split into when the lines of a running statement are
given: these lines go with the rest of the statement. -/
def splitFrom (lines statement : List Text) (k : Nat) : ImportSplit where
  imports := (if endsFrom lines k then statement else []) ++
    (linesFrom (IsImportLine lines) k (lines.drop k)).map Text.trimEnd
  body := (linesFrom (IsBodyLine lines) k (lines.drop k)).flatten ++
    (if endsFrom lines k then [] else unlines statement) ++
    unlines ((linesFrom (IsOpenLine lines) k (lines.drop k)).map Text.trimEnd)

section Step

variable {lines statement : List Text} {k : Nat} {line : Text} {rest : List Text}

theorem splitFrom_of_import (h : lines.drop k = line :: rest) (himport : IsImportLine lines k)
    (hends : endsFrom lines k = true ∨ statement = []) :
    splitFrom lines statement k =
      { splitFrom lines [] (k + 1) with
        imports := statement ++ Text.trimEnd line :: (splitFrom lines [] (k + 1)).imports } := by
  have hrest : lines.drop (k + 1) = rest := by rw [← List.drop_drop, h]; rfl
  have hopen : ¬IsOpenLine lines k := fun ho => ho.not_isImportLine himport
  have hbody : ¬IsBodyLine lines k := fun hb => hb.2.1 himport
  unfold splitFrom
  rw [h, hrest, linesFrom_cons_of_pos himport, linesFrom_cons_of_neg hopen,
    linesFrom_cons_of_neg hbody]
  rcases hends with hends | rfl
  · simp [hends]
  · simp

theorem splitFrom_of_body (h : lines.drop k = line :: rest) (hbody : IsBodyLine lines k) :
    splitFrom lines [] k =
      { splitFrom lines [] (k + 1) with body := line ++ (splitFrom lines [] (k + 1)).body } := by
  have hrest : lines.drop (k + 1) = rest := by rw [← List.drop_drop, h]; rfl
  unfold splitFrom
  rw [h, hrest, linesFrom_cons_of_pos hbody, linesFrom_cons_of_neg hbody.2.1,
    linesFrom_cons_of_neg hbody.2.2]
  simp

theorem splitFrom_of_inside (h : lines.drop k = line :: rest) (hinside : insideAt lines k = true)
    (hends : endsImport (Text.trim line) = false) :
    splitFrom lines statement k =
      splitFrom lines (statement ++ [Text.trimEnd line]) (k + 1) := by
  have hrest : lines.drop (k + 1) = rest := by rw [← List.drop_drop, h]; rfl
  have hk : k < lines.length := by
    by_contra hk
    rw [List.drop_eq_nil_of_le (Nat.le_of_not_lt hk)] at h
    exact absurd h (by simp)
  have hlater := endsFrom_eq h
  rw [hends, Bool.false_or] at hlater
  unfold splitFrom
  rw [h, hrest, hlater]
  cases hcase : endsFrom lines (k + 1) with
  | true =>
    have himport : IsImportLine lines k := isImportLine_iff.mpr (.inr ⟨hinside, hlater ▸ hcase⟩)
    rw [linesFrom_cons_of_pos himport, linesFrom_cons_of_neg fun hb => hb.2.1 himport,
      linesFrom_cons_of_neg fun ho => ho.not_isImportLine himport]
    simp
  | false =>
    have hopen : IsOpenLine lines k := isOpenLine_iff.mpr ⟨hk, hinside, hlater ▸ hcase⟩
    rw [linesFrom_cons_of_pos hopen, linesFrom_cons_of_neg hopen.not_isImportLine,
      linesFrom_cons_of_neg fun hb => hb.2.2 hopen]
    simp

end Step

/-- **The split of the lines from a position on**, where the lines of the running statement are
given. -/
theorem ofLines_drop (lines : List Text) {statement : List Text} {k : Nat}
    (hruns : runsAt lines k = !statement.isEmpty) :
    ofLines statement (lines.drop k) = splitFrom lines statement k := by
  generalize hrest : lines.drop k = rest
  induction rest generalizing k statement with
  | nil =>
    have hends : endsFrom lines k = false := by rw [endsFrom, hrest]; rfl
    unfold splitFrom
    rw [hrest, hends]
    simp [ofLines, unlines, Text.ofString_eq]
  | cons line rest ih =>
    have hline : lines[k]? = some line := by rw [← List.head?_drop, hrest]; rfl
    have hk : k < lines.length := (List.getElem?_eq_some_iff.mp hline).1
    have hnext : lines.drop (k + 1) = rest := by rw [← List.drop_drop, hrest]; rfl
    have hlines : ∀ kind, lineIs kind lines k = kind (Text.trim line) :=
      fun _ => lineIs_of_getElem? hline
    have hinside : insideAt lines k = !(statement.isEmpty && !startsImport (Text.trim line)) := by
      rw [insideAt, hruns, hlines, Bool.not_and, Bool.not_not]
    rw [ofLines]
    dsimp only
    split_ifs with hreference hplain hends
    · obtain ⟨hempty, href⟩ := Bool.and_eq_true_iff.mp hreference
      obtain rfl := List.isEmpty_iff.mp hempty
      have himport : IsImportLine lines k := .inl ⟨hruns, (hlines _).trans href⟩
      have hout := insideAt_of_reference hruns ((hlines _).trans href)
      rw [splitFrom_of_import hrest himport (.inr rfl), ih (by rw [runsAt_succ, hout]; rfl) hnext]
      rfl
    · have hout : insideAt lines k = false := by rw [hinside, hplain, Bool.not_true]
      obtain rfl := List.isEmpty_iff.mp (Bool.and_eq_true_iff.mp hplain).1
      have href : lineIs isReference lines k = false := by simpa [hlines] using hreference
      rw [splitFrom_of_body hrest (isBodyLine_of_plain hk hout href),
        ih (by rw [runsAt_succ, hout]; rfl) hnext]
    · have hin : insideAt lines k = true := by
        rw [hinside, Bool.eq_false_iff.mpr hplain, Bool.not_false]
      have hlater : endsFrom lines k = true := by rw [endsFrom_eq hrest, hends, Bool.true_or]
      have himport : IsImportLine lines k := isImportLine_iff.mpr (.inr ⟨hin, hlater⟩)
      rw [splitFrom_of_import hrest himport (.inl hlater),
        ih (by rw [runsAt_succ, hlines, hends]; simp) hnext]
    · have hin : insideAt lines k = true := by
        rw [hinside, Bool.eq_false_iff.mpr hplain, Bool.not_false]
      have hnot : endsImport (Text.trim line) = false := by simpa using hends
      rw [splitFrom_of_inside hrest hin hnot, ih _ hnext]
      rw [runsAt_succ, hin, hlines, hnot]
      simp

/-! ## The split of a code -/

/-- **Where the lines of a code go**: the import code is the import lines in order, without the
blanks at their ends and with line feeds between them. The body is the lines of the body in order as
they are, and behind them those of a statement that never ends, without the blanks at their ends and
each with a line feed. Every line is of exactly one of these kinds, and the lines of a statement
that never ends are the last ones. -/
theorem ofCode_divides (code : Text) :
    let lines := Text.inclusiveLines code
    lines.flatten = code ∧
      (ofCode code).importCode =
        Text.join "\n" ((linesAt (IsImportLine lines) lines).map Text.trimEnd) ∧
      (ofCode code).body = (linesAt (IsBodyLine lines) lines).flatten ++
        unlines ((linesAt (IsOpenLine lines) lines).map Text.trimEnd) ∧
      (∀ k < lines.length,
        (IsImportLine lines k ∧ ¬IsOpenLine lines k ∧ ¬IsBodyLine lines k) ∨
          (¬IsImportLine lines k ∧ IsOpenLine lines k ∧ ¬IsBodyLine lines k) ∨
          (¬IsImportLine lines k ∧ ¬IsOpenLine lines k ∧ IsBodyLine lines k)) ∧
      ∀ k j, IsOpenLine lines k → k ≤ j → j < lines.length → IsOpenLine lines j := by
  intro lines
  have hsplit : ofCode code = splitFrom lines [] 0 := ofLines_drop (k := 0) lines rfl
  refine ⟨Text.flatten_inclusiveLines code, ?_, ?_, fun k hk => ?_, fun k j h => h.mono⟩
  · rw [ImportSplit.importCode, hsplit]
    simp [splitFrom, linesAt]
  · rw [hsplit]
    simp [splitFrom, linesAt]
  · by_cases himport : IsImportLine lines k
    · exact .inl ⟨himport, fun ho => ho.not_isImportLine himport, fun hb => hb.2.1 himport⟩
    · by_cases hopen : IsOpenLine lines k
      · exact .inr (.inl ⟨himport, hopen, fun hb => hb.2.2 hopen⟩)
      · exact .inr (.inr ⟨himport, hopen, hk, himport, hopen⟩)

/-- A blank line and a reference in a statement go with it, and a statement that never ends
stays. -/
example : ofCode "import \x7b\n\n/// <reference\n\x7d from 'a' \nf();\n import b" =
    ⟨["import \x7b", "", "/// <reference", "\x7d from 'a'"], "f();\n import b\n"⟩ := by
  cbv

end SchemaTypes
