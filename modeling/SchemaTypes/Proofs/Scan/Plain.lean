import Mathlib.Tactic.SplitIfs
import SchemaTypes.Extension.ClassScan

/-!
# Plain characters

Code is read from left to right, a string literal, a comment or a plain character at a time. A
literal runs through the next equal quote that no backslash escapes, a line comment up to the next
line feed and a block comment through the next mark that closes it; each runs to the end of the
code if what it waits for does not come.

* `literalLength`, `blockLength`: how far literals and block comments run.
* `lexemeLength`, `plainMarks`, `PlainAt`: which characters of a code are plain.
* **`plainAt_iff`**: the zones of a scan tell the plain braces and line feeds from all others.
-/

namespace SchemaTypes

/-! ## Reading lexemes -/

/-- The characters of a literal behind its opening quote. -/
def literalLength (quote : Char) : Text → Nat
  | [] => 0
  | '\\' :: _ :: r => literalLength quote r + 2
  | c :: r => if c = quote then 1 else literalLength quote r + 1

/-- The characters of a block comment behind its opening mark. -/
def blockLength : Text → Nat
  | [] => 0
  | '*' :: '/' :: _ => 2
  | _ :: r => blockLength r + 1

/-- The characters of the literal or comment in front of a text; none if there is no such. -/
def lexemeLength : Text → Nat
  | [] => 0
  | c :: r =>
    if isQuote c then literalLength c r + 1
    else if c = '/' ∧ r.head? = some '/' then (r.takeWhile (· ≠ '\n')).length + 1
    else if c = '/' ∧ r.head? = some '*' then blockLength r.tail + 2
    else 0

/-- For every character of a text: is it plain? -/
def plainMarks : Text → List Bool
  | [] => []
  | c :: r =>
    match lexemeLength (c :: r) with
    | 0 => true :: plainMarks r
    | n + 1 => List.replicate (n + 1) false ++ plainMarks (r.drop n)
termination_by t => t.length

/-- The character stands at the position of the text, outside literals and comments. -/
def PlainAt (t : Text) (i : Nat) (c : Char) : Prop :=
  t[i]? = some c ∧ (plainMarks t)[i]? = some true

instance (t : Text) (i : Nat) (c : Char) : Decidable (PlainAt t i c) := by
  unfold PlainAt; infer_instance

theorem PlainAt.lt {t : Text} {i : Nat} {c : Char} (h : PlainAt t i c) : i < t.length :=
  (List.getElem?_eq_some_iff.mp h.1).1

theorem PlainAt.unique {t : Text} {i : Nat} {c d : Char} (h : PlainAt t i c)
    (h' : PlainAt t i d) : c = d := by
  have := h.1.symm.trans h'.1
  exact Option.some.inj this

/-! ## The zones of a scan -/

namespace Zone

/-- For every character of a text: is it code, where the text begins in the zone? -/
def marks : Zone → Text → List Bool
  | _, [] => []
  | z, c :: r => z.isCode c :: marks (z.after c r) r

@[simp] theorem isCode_code (c : Char) : code.isCode c = true := rfl

@[simp] theorem isCode_literal (q c : Char) : (literal q).isCode c = false := rfl

@[simp] theorem isCode_escaped (q c : Char) : (escaped q).isCode c = false := rfl

@[simp] theorem isCode_blockOpening (c : Char) : blockOpening.isCode c = false := rfl

@[simp] theorem isCode_block (c : Char) : block.isCode c = false := rfl

@[simp] theorem isCode_blockClosing (c : Char) : blockClosing.isCode c = false := rfl

theorem isCode_lineComment (c : Char) : lineComment.isCode c = decide (c = '\n') := by
  simp [isCode]

theorem after_of_newline {z : Zone} {r : Text} (h : z.isCode '\n' = true) :
    z.after '\n' r = code := by
  cases z <;> simp_all [after, isQuote]

theorem marks_literal {q : Char} (hq : q ≠ '\\') (r : Text) :
    (literal q).marks r =
      List.replicate (literalLength q r) false ++ code.marks (r.drop (literalLength q r)) := by
  fun_induction literalLength q r with
  | case1 => rfl
  | case2 c r ih =>
    simp only [marks, after, if_true, isCode_literal, isCode_escaped, ih, List.replicate_succ,
      List.cons_append, List.drop_succ_cons]
  | case3 r h =>
    simp only [marks, isCode_literal, after, if_neg hq, if_true, List.replicate_one,
      List.singleton_append, List.drop_succ_cons, List.drop_zero]
  | case4 c r h hc ih =>
    by_cases hb : c = '\\'
    · -- a backslash that nothing follows
      subst hb
      cases r with
      | nil => simp [marks, literalLength]
      | cons d r => exact absurd rfl (h d r rfl)
    · simp only [marks, isCode_literal, after, if_neg hb, if_neg hc, ih, List.replicate_succ,
        List.cons_append, List.drop_succ_cons]

theorem marks_lineComment (r : Text) :
    lineComment.marks r = List.replicate (r.takeWhile (· ≠ '\n')).length false ++
      code.marks (r.drop (r.takeWhile (· ≠ '\n')).length) := by
  induction r with
  | nil => rfl
  | cons c r ih =>
    by_cases hc : c = '\n'
    · subst hc
      simp [marks, isCode_lineComment, after, isQuote]
    · simp [marks, isCode_lineComment, after, hc, ih, List.replicate_succ]

theorem marks_block (r : Text) :
    block.marks r =
      List.replicate (blockLength r) false ++ code.marks (r.drop (blockLength r)) := by
  fun_induction blockLength r with
  | case1 => rfl
  | case2 r => simp [marks, after]
  | case3 c r h ih =>
    have hb : ¬(c = '*' ∧ r.head? = some '/') := by
      rintro ⟨rfl, hr⟩
      cases r with
      | nil => simp at hr
      | cons d r =>
        simp only [List.head?_cons, Option.some.injEq] at hr
        subst hr
        exact h r rfl rfl
    simp only [marks, isCode_block, after, if_neg hb, ih, List.replicate_succ, List.cons_append,
      List.drop_succ_cons]

end Zone

/-! ## Plain characters and zones -/

/-- Does the character open or close a brace, or end a line? -/
def isStructural (c : Char) : Bool :=
  c = '\x7b' || c = '\x7d' || c = '\n'

theorem marks_lexeme {t : Text} {n : Nat} (h : lexemeLength t = n + 1) :
    ∃ c r, t = c :: r ∧ isStructural c = false ∧
      Zone.code.marks t = true :: (List.replicate n false ++ Zone.code.marks (r.drop n)) := by
  cases t with
  | nil => simp [lexemeLength] at h
  | cons c r =>
    refine ⟨c, r, rfl, ?_⟩
    simp only [lexemeLength] at h
    split_ifs at h with hq hl hb
    · obtain rfl : literalLength c r = n := by omega
      have hs : c ≠ '\\' := by rintro rfl; simp [isQuote] at hq
      constructor
      · simp only [isQuote, Bool.or_eq_true, decide_eq_true_eq] at hq
        rcases hq with (rfl | rfl) | rfl <;> rfl
      · simp only [Zone.marks, Zone.isCode_code, Zone.after, if_pos hq, Zone.marks_literal hs]
    · obtain rfl : (r.takeWhile (· ≠ '\n')).length = n := by omega
      obtain ⟨rfl, hr⟩ := hl
      refine ⟨rfl, ?_⟩
      simp only [Zone.marks, Zone.isCode_code, Zone.after, hr, isQuote]
      rw [← Zone.marks_lineComment]
      rfl
    · obtain rfl : blockLength r.tail + 1 = n := by omega
      obtain ⟨rfl, hr⟩ := hb
      refine ⟨rfl, ?_⟩
      cases r with
      | nil => simp at hr
      | cons d r =>
        obtain rfl : d = '*' := by simpa using hr
        simp only [Zone.marks, Zone.isCode_code, Zone.after, List.head?_cons, isQuote,
          List.tail_cons]
        simp [List.replicate_succ, Zone.marks_block]

theorem after_of_lexemeLength {c : Char} {r : Text} (h : lexemeLength (c :: r) = 0) :
    Zone.code.after c r = .code := by
  simp only [lexemeLength] at h
  split_ifs at h with hq hl hb
  simp only [Zone.after, if_neg hq, if_neg hl, if_neg hb]

/-- **The zones tell which braces and line feeds are plain.** -/
theorem getElem?_plainMarks {t : Text} {i : Nat} {c : Char} (hc : isStructural c = true)
    (hi : t[i]? = some c) : (plainMarks t)[i]? = (Zone.code.marks t)[i]? := by
  fun_induction plainMarks t generalizing i with
  | case1 => simp at hi
  | case2 d r h ih =>
    rw [Zone.marks, after_of_lexemeLength h]
    cases i with
    | zero => rfl
    | succ i => simpa using ih (by simpa using hi)
  | case3 d r n h ih =>
    obtain ⟨d', r', e, hd, hm⟩ := marks_lexeme h
    obtain ⟨rfl, rfl⟩ := List.cons.inj e
    rw [hm]
    cases i with
    | zero =>
      obtain rfl : d = c := by simpa using hi
      rw [hc] at hd
      exact Bool.noConfusion hd
    | succ i =>
      simp only [List.replicate_succ, List.cons_append, List.getElem?_cons_succ,
        List.getElem?_append, List.length_replicate] at hi ⊢
      split_ifs with hn
      · rfl
      · refine ih ?_
        rw [List.getElem?_drop, Nat.add_sub_cancel' (Nat.le_of_not_lt hn)]
        exact hi

/-- **A brace or a line feed is plain where the zones find code.** -/
theorem plainAt_iff {t : Text} {i : Nat} {c : Char} (hc : isStructural c = true) :
    PlainAt t i c ↔ t[i]? = some c ∧ (Zone.code.marks t)[i]? = some true := by
  unfold PlainAt
  refine and_congr_right fun hi => ?_
  rw [getElem?_plainMarks hc hi]

end SchemaTypes
