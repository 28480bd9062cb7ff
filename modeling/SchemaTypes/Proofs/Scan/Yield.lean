import SchemaTypes.Extension.Index
import SchemaTypes.Proofs.Scan.Header
import SchemaTypes.Proofs.Scan.Neutral

/-!
# Classes on the way

What a text adds to the classes of a code, wherever in the code it stands.

* `Yields`: the text takes one state to another, and its classes have the names and the texts.
* `Yields.append`, `Passes.yields`: texts one behind the other.
* `scanFrom_block`, `scanFrom_class`: a header and a neutral text in braces.
* **`yields_class`**, **`passes_block_of_no_header`**: such a block is a class if its header is one.
-/

namespace SchemaTypes

/-- Behind any text and in front of any other, the text takes the first state of a scan to the
second; the classes that end in it have the names and the texts. -/
def Yields (x : Text) (s s' : ScanState) (classes : List (Text × Text)) : Prop :=
  ∀ before : Text, ∃ spans : List ClassSpan, ∀ rest,
    scanFrom s before.length (x ++ rest) =
        (scanFrom s' (before.length + x.length) rest).map (spans ++ ·) ∧
      spans.map (fun c => (c.name, (before ++ (x ++ rest)).slice c.start c.stop)) = classes

theorem Passes.yields {x : Text} {s s' : ScanState} (h : Passes x s s') : Yields x s s' [] := by
  refine fun before => ⟨[], fun rest => ⟨?_, rfl⟩⟩
  rw [h]
  cases scanFrom s' (before.length + x.length) rest <;> rfl

theorem Yields.append {x y : Text} {s s' s'' : ScanState} {cs ds : List (Text × Text)}
    (hx : Yields x s s' cs) (hy : Yields y s' s'' ds) : Yields (x ++ y) s s'' (cs ++ ds) := by
  intro before
  obtain ⟨spans, hspans⟩ := hx before
  obtain ⟨more, hmore⟩ := hy (before ++ x)
  refine ⟨spans ++ more, fun rest => ?_⟩
  obtain ⟨h₁, h₂⟩ := hspans (y ++ rest)
  obtain ⟨h₃, h₄⟩ := hmore rest
  rw [List.length_append] at h₃
  rw [List.append_assoc, h₁, h₃, List.length_append, ← Nat.add_assoc]
  refine ⟨?_, ?_⟩
  · cases scanFrom s'' (before.length + x.length + y.length) rest with
    | error f => rfl
    | ok found => exact congrArg Except.ok (List.append_assoc _ _ _).symm
  · rw [List.map_append, h₂]
    rw [List.append_assoc] at h₄
    rw [h₄]

theorem Yields.scanClasses {x : Text} {s : ScanState} {cs : List (Text × Text)}
    (h : Yields x {} s cs) (hs : s.current = .none) :
    ∃ spans, scanClasses x = .ok spans ∧
      spans.map (fun c => (c.name, x.slice c.start c.stop)) = cs := by
  obtain ⟨spans, hspans⟩ := h []
  obtain ⟨h₁, h₂⟩ := hspans []
  have hend : scanFrom s (([] : Text).length + x.length) [] = .ok [] := by
    rw [scanFrom, hs]
  rw [hend, List.append_nil] at h₁
  refine ⟨spans, ?_, by simpa using h₂⟩
  have hscan : scanFrom {} 0 x = .ok spans := h₁.trans (congrArg Except.ok (List.append_nil spans))
  rw [SchemaTypes.scanClasses, hscan]

/-! ## Blocks -/

theorem scanFrom_inert_cons {s : ScanState} (hs : s.zone = .code) {c : Char}
    (hc : isInert c = true) (hn : c ≠ '\n') (i : Nat) (r : Text) :
    scanFrom s i (c :: r) = scanFrom ((s.noteHeader i (c :: r)).within .code) (i + 1) r := by
  have hz : (s.noteHeader i (c :: r)).zone = .code := by
    unfold ScanState.noteHeader
    split
    · split <;> exact hs
    · exact hs
  rw [scanFrom]
  generalize s.noteHeader i (c :: r) = s' at hz ⊢
  obtain ⟨ho, hc'⟩ := ne_brace_of_isInert hc
  rw [if_neg fun h => ho h.2, if_neg fun h => hc' h.2]
  unfold ScanState.advance ScanState.within
  rw [hz, after_of_isInert hc]
  simp [hn]

/-- The text of a header: something, and no mark or line feed in it. -/
structure HeaderText (header : Text) : Prop where
  inert : Inert header
  line : '\n' ∉ header
  nonempty : header ≠ []

theorem HeaderText.append {header more : Text} (h : HeaderText header) (hi : Inert more)
    (hn : '\n' ∉ more) : HeaderText (header ++ more) where
  inert := h.inert.append hi
  line := by
    rw [List.mem_append, not_or]
    exact ⟨h.line, hn⟩
  nonempty := List.append_ne_nil_of_left_ne_nil h.nonempty more

/-- **A header and a neutral text in braces**: the brace opens what the header declares and its
counterpart closes it. -/
theorem scanFrom_block {s : ScanState} (hs : s.zone = .code) {header inner : Text}
    (hh : HeaderText header) (hi : Neutral inner) (i : Nat) (rest : Text) :
    let opened := (s.noteHeader i (header ++ '\x7b' :: inner ++ ['\x7d'] ++ rest)).openBrace
      (i + header.length)
    let closed := opened.closeBrace (i + (header.length + 1 + inner.length))
    scanFrom s i (header ++ '\x7b' :: inner ++ ['\x7d'] ++ rest) =
      (scanFrom (closed.1.within .code) (i + (header ++ '\x7b' :: inner ++ ['\x7d']).length)
        rest).map (closed.2.toList ++ ·) := by
  obtain ⟨hinert, hline, hne⟩ := hh
  cases header with
  | nil => exact absurd rfl hne
  | cons c h =>
    have hc : c ≠ '\n' := fun e => hline (e ▸ List.mem_cons_self)
    have htail : Inert h := hinert.of_subset (List.subset_cons_self c h)
    have hline' : '\n' ∉ h := fun e => hline (List.mem_cons_of_mem _ e)
    have hlen : i + ((c :: h) ++ '\x7b' :: inner ++ ['\x7d']).length =
        i + 1 + h.length + 1 + inner.length + 1 := by
      simp only [List.length_append, List.length_cons, List.length_nil]
      omega
    have hpos : i + ((c :: h).length + 1 + inner.length) = i + 1 + h.length + 1 + inner.length := by
      simp only [List.length_cons]
      omega
    have hopen : i + (c :: h).length = i + 1 + h.length := by
      simp only [List.length_cons]
      omega
    rw [hlen, hpos, hopen]
    simp only [List.cons_append, List.append_assoc, List.nil_append]
    rw [scanFrom_inert_cons hs (hinert c List.mem_cons_self) hc, passes_inert htail hline',
      scanFrom_openBrace, hi _ (by simp), scanFrom_closeBrace (by simp)]

/-- **A class in a scan**: the block of a class header outside all braces is a class from the header
on, and its body is what stands in the braces. -/
theorem scanFrom_class {header inner name : Text} (hh : HeaderText header) (hi : Neutral inner)
    (hname : ∀ rest, classHeader? (header ++ '\x7b' :: rest) = some name) (i : Nat) (rest : Text) :
    scanFrom {} i (header ++ '\x7b' :: inner ++ ['\x7d'] ++ rest) =
      (scanFrom (({} : ScanState).within .code)
          (i + (header ++ '\x7b' :: inner ++ ['\x7d']).length) rest).map
        ([⟨name, i, i + header.length + 1, i + (header.length + 1 + inner.length)⟩] ++ ·) := by
  have hnote : ({} : ScanState).noteHeader i (header ++ '\x7b' :: inner ++ ['\x7d'] ++ rest) =
      { current := .waiting name i } := by
    have := hname (inner ++ '\x7d' :: rest)
    unfold ScanState.noteHeader
    rw [if_pos (by decide)]
    simp only [List.append_assoc, List.cons_append, List.nil_append] at this ⊢
    rw [this]
  have := scanFrom_block (s := {}) rfl hh hi i rest
  rw [hnote] at this
  exact this

/-- **A class**: the block of a class header outside all braces. -/
theorem yields_class {header inner name : Text} (hh : HeaderText header) (hi : Neutral inner)
    (hname : ∀ rest, classHeader? (header ++ '\x7b' :: rest) = some name) :
    Yields (header ++ '\x7b' :: inner ++ ['\x7d']) {} (({} : ScanState).within .code)
      [(name, header ++ '\x7b' :: inner ++ ['\x7d'])] := by
  intro before
  have hlen : (header ++ '\x7b' :: inner ++ ['\x7d']).length =
      header.length + 1 + inner.length + 1 := by
    simp only [List.length_append, List.length_cons, List.length_nil]
    omega
  refine ⟨_, fun rest => ⟨scanFrom_class hh hi hname before.length rest, ?_⟩⟩
  have hstop : before.length + (header.length + 1 + inner.length) + 1 - before.length =
      (header ++ '\x7b' :: inner ++ ['\x7d']).length := by
    omega
  simp only [List.map_cons, List.map_nil, ClassSpan.stop, Text.slice, hstop, List.drop_left,
    List.take_left]

/-- **No class**: the block of another header outside all braces. -/
theorem passes_block_of_no_header {header inner : Text} (hh : HeaderText header)
    (hi : Neutral inner) (hname : ∀ rest, classHeader? (header ++ '\x7b' :: rest) = none) :
    Passes (header ++ '\x7b' :: inner ++ ['\x7d']) {} (({} : ScanState).within .code) := by
  intro i rest
  have hnote : ({} : ScanState).noteHeader i
      (header ++ '\x7b' :: inner ++ ['\x7d'] ++ rest) = {} := by
    refine ScanState.noteHeader_of_no_header _ i ?_
    have := hname (inner ++ '\x7d' :: rest)
    simpa only [List.append_assoc, List.cons_append, List.nil_append] using this
  have hclosed : ∀ a b, (({} : ScanState).openBrace a).closeBrace b = ({}, none) := fun _ _ => rfl
  have := scanFrom_block (s := {}) rfl hh hi i rest
  simp only [hnote, hclosed] at this
  rw [this]
  cases scanFrom (({} : ScanState).within .code)
    (i + (header ++ '\x7b' :: inner ++ ['\x7d']).length) rest <;> rfl

end SchemaTypes
