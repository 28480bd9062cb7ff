import Mathlib.Data.List.Chain
import SchemaTypes.Proofs.Scan.State

/-!
# Passages of a scan

What a text does to the state of a scan, whatever follows it.

* `Passes`: the text takes one state to another and declares no class.
* **`passes_inert`**, **`passes_quoted`**, **`passes_comment`**: text without marks, literals and
  comments stay where they are.
-/

namespace SchemaTypes

/-! ## Passages -/

theorem scanFrom_atLineStart {s : ScanState} (h : s.zone ≠ .code ∨ s.depth ≠ 0) (b : Bool) (i : Nat)
    (t : Text) : scanFrom { s with atLineStart := b } i t = scanFrom s i t := by
  cases t with
  | nil => rfl
  | cons c r =>
    have hq : ∀ b, ({ s with atLineStart := b } : ScanState).Quiet := fun b => by
      rcases h with h | h
      · exact .inl h
      · exact .inr (.inl h)
    rw [scanFrom, scanFrom, (hq b).noteHeader, (hq s.atLineStart).noteHeader]
    obtain ⟨z, d, a, o⟩ := s
    rcases d with _ | _ | d <;> cases o <;> rfl

/-- Whatever follows it, the text takes the first state of a scan to the second. -/
def Passes (x : Text) (s s' : ScanState) : Prop :=
  ∀ i rest, scanFrom s i (x ++ rest) = scanFrom s' (i + x.length) rest

namespace Passes

variable {x y : Text} {s s' s'' : ScanState} {c : Char}

theorem refl (s : ScanState) : Passes [] s s := fun _ _ => rfl

theorem trans (h : Passes x s s') (h' : Passes y s' s'') : Passes (x ++ y) s s'' := by
  intro i rest
  rw [List.append_assoc, h, h', List.length_append, Nat.add_assoc]

theorem cons {z : Zone} (hn : ∀ i r, s.noteHeader i (c :: r) = s)
    (hb : s.zone.isCode c = true → c ≠ '\x7b' ∧ c ≠ '\x7d')
    (hz : ∀ rest, s.zone.after c (x ++ rest) = z)
    (h : Passes x { s with zone := z, atLineStart := s.zone.isCode c && c = '\n' } s') :
    Passes (c :: x) s s' := by
  intro i rest
  rw [List.cons_append, scanFrom, hn]
  have ho : ¬(s.zone.isCode c = true ∧ c = '\x7b') := fun h => (hb h.1).1 h.2
  have hc : ¬(s.zone.isCode c = true ∧ c = '\x7d') := fun h => (hb h.1).2 h.2
  rw [if_neg ho, if_neg hc]
  have := h (i + 1) rest
  rw [List.length_cons, Nat.add_comm x.length, ← Nat.add_assoc, ← this]
  unfold ScanState.advance
  rw [hz]

theorem cons_within {z z' : Zone} (hb : z.isCode c = true → c ≠ '\x7b' ∧ c ≠ '\x7d')
    (hz : ∀ rest, z.after c (x ++ rest) = z')
    (h : Passes x { s with zone := z', atLineStart := z.isCode c && c = '\n' } s') :
    Passes (c :: x) (s.within z) s' :=
  cons (fun _ _ => (s.quiet_within z).noteHeader _ _) hb hz h

theorem cons_outside {z z' : Zone} (hcode : z.isCode c = false)
    (hz : ∀ rest, z.after c (x ++ rest) = z') (h : Passes x (s.within z') s') :
    Passes (c :: x) (s.within z) s' := by
  refine cons_within (fun hc => ?_) hz ?_
  · rw [hcode] at hc
    exact Bool.noConfusion hc
  · rw [hcode]
    exact h

end Passes

/-! ## Plain text -/

/-- The characters that can open or close something. -/
def marks : List Char :=
  ['"', '\'', '`', '/', '\x7b', '\x7d']

/-- Is the character no mark? -/
def isInert (c : Char) : Bool :=
  c ∉ marks

theorem isInert_of_class {p : Char → Bool} {c : Char} (hp : marks.all (!p ·) = true)
    (h : p c = true) : isInert c = true := by
  refine decide_eq_true fun hc => ?_
  have := List.all_eq_true.mp hp c hc
  rw [h] at this
  exact Bool.noConfusion this

theorem after_of_isInert {c : Char} (h : isInert c = true) (r : Text) :
    Zone.code.after c r = .code := by
  have hm : c ∉ marks := of_decide_eq_true h
  have hq : isQuote c = false := by
    rw [Bool.eq_false_iff]
    intro hq
    simp only [isQuote, Bool.or_eq_true, decide_eq_true_eq] at hq
    rcases hq with (rfl | rfl) | rfl <;> exact hm (by decide)
  have hs : c ≠ '/' := by
    rintro rfl
    exact hm (by decide)
  simp [Zone.after, hq, hs]

theorem ne_brace_of_isInert {c : Char} (h : isInert c = true) : c ≠ '\x7b' ∧ c ≠ '\x7d' := by
  have hm : c ∉ marks := of_decide_eq_true h
  constructor <;> rintro rfl <;> exact hm (by decide)

/-- The characters of the text neither open nor close anything. -/
def Inert (x : Text) : Prop :=
  ∀ c ∈ x, isInert c = true

instance (x : Text) : Decidable (Inert x) :=
  decidable_of_iff (x.all isInert) List.all_eq_true

namespace Inert

variable {x y : Text}

theorem append (hx : Inert x) (hy : Inert y) : Inert (x ++ y) := by
  intro c hc
  rcases List.mem_append.mp hc with h | h
  · exact hx c h
  · exact hy c h

theorem of_subset (hx : Inert x) (h : y ⊆ x) : Inert y := fun c hc => hx c (h hc)

end Inert

/-- **Text without any mark stays within its line.** -/
theorem passes_inert {s : ScanState} {x : Text} (hx : Inert x) (hn : '\n' ∉ x) :
    Passes x (s.within .code) (s.within .code) := by
  induction x with
  | nil => exact .refl _
  | cons c x ih =>
    have hc := hx c List.mem_cons_self
    have hne : c ≠ '\n' := fun h => hn (h ▸ List.mem_cons_self)
    refine .cons_within (fun _ => ne_brace_of_isInert hc) (fun _ => after_of_isInert hc _) ?_
    simp only [hne, decide_false, Bool.and_false]
    exact ih (hx.of_subset (List.subset_cons_self c x)) fun h => hn (List.mem_cons_of_mem _ h)

theorem passes_newline (s : ScanState) : Passes ['\n'] (s.within .code) s.fresh :=
  .cons_within (fun _ => by decide) (fun _ => after_of_isInert (by decide) _) (.refl _)

/-! ## Literals -/

/-- A scan that is inside a literal before the text is so behind it. -/
def StaysQuoted (x : Text) : Prop :=
  ∀ s : ScanState, Passes x (s.within (.literal '"')) (s.within (.literal '"'))

theorem StaysQuoted.append {x y : Text} (hx : StaysQuoted x) (hy : StaysQuoted y) :
    StaysQuoted (x ++ y) := fun s => (hx s).trans (hy s)

theorem staysQuoted_singleton {c : Char} (hq : c ≠ '"') (hb : c ≠ '\\') : StaysQuoted [c] := by
  intro s
  have hafter : ∀ rest, (Zone.literal '"').after c rest = .literal '"' := by
    intro rest
    rw [Zone.after, if_neg hb, if_neg hq]
  exact .cons_outside rfl hafter (.refl _)

theorem staysQuoted_escape (c : Char) : StaysQuoted ['\\', c] := by
  intro s
  have hescaped : Passes [c] (s.within (.escaped '"')) (s.within (.literal '"')) :=
    .cons_outside rfl (fun _ => rfl) (.refl _)
  exact .cons_outside rfl (fun _ => rfl) hescaped

/-- Can the character stand in a literal without a backslash before it? -/
def isQuotable (c : Char) : Bool :=
  c ≠ '"' && c ≠ '\\'

theorem staysQuoted_of_all {x : Text} (h : x.all isQuotable = true) : StaysQuoted x := by
  induction x with
  | nil => exact fun _ => .refl _
  | cons c x ih =>
    rw [List.all_cons, Bool.and_eq_true] at h
    obtain ⟨hc, hx⟩ := h
    simp only [isQuotable, Bool.and_eq_true, decide_eq_true_eq] at hc
    exact (staysQuoted_singleton hc.1 hc.2).append (ih hx)

/-- **A literal in quotes** whose content stays quoted is passed. -/
theorem passes_quoted {s : ScanState} {x : Text} (hx : StaysQuoted x) :
    Passes ('"' :: x ++ ['"']) (s.within .code) (s.within .code) := by
  rw [List.cons_append]
  refine .cons_within (fun _ => by decide) (fun _ => rfl) ?_
  refine (hx s).trans ?_
  exact .cons_outside rfl (fun _ => rfl) (.refl _)

/-! ## Comments -/

/-- No slash stands behind a star. -/
def Unclosed (x : Text) : Prop :=
  x.IsChain fun a b => ¬(a = '*' ∧ b = '/')

/-- **A block comment** is passed to where it is closed. -/
theorem passes_block {s : ScanState} (x : Text) (hx : Unclosed (x ++ ['*'])) :
    Passes (x ++ ['*', '/']) (s.within .block) (s.within .code) := by
  induction x with
  | nil =>
    have hclosing : Passes ['/'] (s.within .blockClosing) (s.within .code) :=
      .cons_outside rfl (fun _ => rfl) (.refl _)
    exact .cons_outside rfl (fun _ => rfl) hclosing
  | cons c x ih =>
    have hnext : ∀ rest : Text, ¬(c = '*' ∧ (x ++ ['*', '/'] ++ rest).head? = some '/') := by
      rintro rest ⟨rfl, h⟩
      cases x with
      | nil => simp at h
      | cons d x =>
        obtain rfl : d = '/' := by simpa using h
        simp [Unclosed] at hx
    exact .cons_outside rfl (fun rest => if_neg (hnext rest)) (ih hx.tail)

/-- **A comment is passed** wherever it stands in code. -/
theorem passes_comment {s : ScanState} (hs : s.zone = .code) (x : Text)
    (hx : Unclosed (x ++ ['*'])) : Passes ('/' :: '*' :: x ++ ['*', '/']) s (s.within .code) := by
  rw [List.cons_append, List.cons_append]
  refine Passes.cons (fun _ _ => s.noteHeader_of_no_header _ (classHeader?_slash _))
    (fun _ => by decide) (z := .blockOpening)
    (fun rest => by simp [hs, Zone.after, isQuote]) ?_
  exact .cons_outside (z := .blockOpening) rfl (fun _ => rfl) (passes_block x hx)

/-- **A line comment** is passed with the line feed behind it. -/
theorem passes_lineComment {s : ScanState} (hs : s.zone = .code) {x : Text} (hx : '\n' ∉ x) :
    Passes ('/' :: '/' :: x ++ ['\n']) s s.fresh := by
  have within : ∀ y : Text, '\n' ∉ y →
      Passes (y ++ ['\n']) (s.within .lineComment) s.fresh := fun y hy => by
    induction y with
    | nil =>
      exact .cons_within (fun _ => by decide) (fun _ => rfl) (.refl _)
    | cons c y ih =>
      have hc : c ≠ '\n' := fun e => hy (e ▸ List.mem_cons_self)
      have hcode : Zone.lineComment.isCode c = false := by simp [Zone.isCode, hc]
      refine .cons_outside hcode (fun _ => if_neg hc) ?_
      exact ih fun h => hy (List.mem_cons_of_mem _ h)
  rw [List.cons_append]
  refine Passes.cons (fun _ _ => s.noteHeader_of_no_header _ (classHeader?_slash _))
    (fun _ => by decide) (z := .lineComment) (fun rest => by simp [hs, Zone.after, isQuote]) ?_
  rw [show (decide ('/' = '\n')) = false from rfl, Bool.and_false]
  exact within ('/' :: x) fun h => hx ((List.mem_cons.mp h).resolve_left (by decide))

theorem passes_emptyLine (s : ScanState) : Passes ['\n'] s.fresh s.fresh :=
  Passes.cons (fun _ _ => s.fresh.noteHeader_of_no_header _ (by
      simp [classHeader?, skipSpacing, isSpacing, skipWord, word?, Text.startsWith,
        Text.ofString_eq]))
    (fun _ => by decide) (fun _ => after_of_isInert (by decide) _) (.refl _)

end SchemaTypes
