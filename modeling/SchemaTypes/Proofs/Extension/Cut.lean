import SchemaTypes.Proofs.Extension.Pieces
import SchemaTypes.Proofs.Scan.Bytes
import SchemaTypes.Proofs.Scan.Refinement

/-!
# What is cut out of a code

The classes of a code stand apart from each other, each with its body in braces. What is left of
the code are the characters that stand in no class of the given names.

* `ClassSpan.Framed`: a class ends with its body in braces.
* `Spaced.pairwise`, `framed_scanClasses`: so do all classes, and no two overlap.
* `Text.kept`: the characters of a text at some of its positions.
* `without_eq_kept`: what is left of a code.
* **`ofCode_cuts`**: the index of a code, told from the places of its classes.
-/

namespace SchemaTypes

/-! ## Frames -/

/-- The class ends with its body in braces. -/
structure ClassSpan.Framed (t : Text) (c : ClassSpan) : Prop where
  start_lt : c.start < c.bodyStart
  bodyStart_le : c.bodyStart ≤ c.bodyStop
  opening : t[c.bodyStart - 1]? = some '\x7b'
  closing : t[c.bodyStop]? = some '\x7d'

namespace ClassSpan.Framed

variable {t : Text} {c : ClassSpan}

theorem stop_le_length (h : c.Framed t) : c.stop ≤ t.length :=
  (List.getElem?_eq_some_iff.mp h.closing).1

theorem stop_placed (h : c.Framed t) : (c.placed t.offset).stop = t.offset c.stop :=
  (Text.offset_succ h.closing).symm

/-- Where the characters of a framed class begin in bytes, there stand the bytes of its text and of
its body. -/
theorem slices_placed (h : c.Framed t) :
    let b := c.placed t.offset
    b.stop = t.offset c.stop ∧
      ((Text.utf8 t).drop b.start).take (b.stop - b.start) = Text.utf8 (t.slice c.start c.stop) ∧
      ((Text.utf8 t).drop b.bodyStart).take (b.bodyStop - b.bodyStart) =
        Text.utf8 (t.slice c.bodyStart c.bodyStop) := by
  intro b
  have hstop : c.start ≤ c.stop :=
    Nat.le_succ_of_le (Nat.le_trans (Nat.le_of_lt h.start_lt) h.bodyStart_le)
  rw [show b.stop = t.offset c.stop from h.stop_placed]
  exact ⟨rfl, Text.slice_utf8 t hstop, Text.slice_utf8 t h.bodyStart_le⟩

theorem slice_eq (h : c.Framed t) :
    t.slice c.start c.stop =
      t.slice c.start (c.bodyStart - 1) ++
        ('\x7b' :: t.slice c.bodyStart c.bodyStop ++ ['\x7d']) := by
  have hstart := h.start_lt
  have hbody := h.bodyStart_le
  have hbrace : c.bodyStart - 1 + 1 = c.bodyStart := by omega
  have hopen : t.slice c.start c.bodyStart =
      t.slice c.start (c.bodyStart - 1) ++ ['\x7b'] := by
    have := Text.slice_succ (i := c.start) (by omega) h.opening
    rwa [hbrace] at this
  have hclose : t.slice c.start c.stop = t.slice c.start c.bodyStop ++ ['\x7d'] :=
    Text.slice_succ (by omega) h.closing
  rw [hclose, ← Text.slice_append_slice (Nat.le_of_lt hstart) hbody, hopen]
  simp

/-- **The text of a class ends with its body in braces**, also without the blanks around it. -/
theorem braces_isSuffix (h : c.Framed t) :
    '\x7b' :: t.slice c.bodyStart c.bodyStop ++ ['\x7d'] <:+ c.text t := by
  have hbrace : Text.trimStart ('\x7b' :: t.slice c.bodyStart c.bodyStop ++ ['\x7d']) =
      '\x7b' :: t.slice c.bodyStart c.bodyStop ++ ['\x7d'] := by
    unfold Text.trimStart
    rw [List.cons_append, List.dropWhile_cons_of_neg (by decide)]
  unfold ClassSpan.text
  rw [h.slice_eq, ← List.append_assoc, (trim_concat_brace _).1, List.append_assoc]
  by_cases hlead : Text.trimStart (t.slice c.start (c.bodyStart - 1)) = []
  · have htrim := (Text.trimStart_append_of_eq_nil hlead).trans hbrace
    exact ⟨[], htrim.symm⟩
  · rw [Text.trimStart_append_of_ne_nil hlead]
    exact List.suffix_append _ _

end ClassSpan.Framed

theorem framed_of_span? {t : Text} {h : Header} {c : ClassSpan} (hc : h.span? t = some c) :
    c.Framed t := by
  obtain ⟨i, hopen, hclose, hlt, heq⟩ := Header.bodyBrace_of_span? hc
  obtain ⟨hstart, hbrace, _⟩ := Header.bodyBrace?_eq_some_iff.mp hopen
  unfold closingBrace? at hclose
  rw [List.find?_range_eq_some] at hclose
  obtain ⟨hfound, _⟩ := hclose
  rw [heq]
  exact ⟨Nat.lt_succ_of_le hstart, hlt, hbrace.1, (of_decide_eq_true hfound).2.1.1⟩

/-- **Every class of a code** has a header that counts. -/
theorem exists_header_of_scanClasses {t : Text} {spans : List ClassSpan}
    (h : scanClasses t = .ok spans) : ∀ c ∈ spans, ∃ x ∈ headers t, x.span? t = some c := by
  rw [scanClasses_reading] at h
  intro c hc
  have hmem : some c ∈ (headers t).map (Header.span? t) := by
    rw [map_span?_of_reading h]
    exact List.mem_map_of_mem hc
  obtain ⟨x, hx, hspan⟩ := List.mem_map.mp hmem
  exact ⟨x, hx, hspan⟩

/-- **All classes of a code are framed.** -/
theorem framed_scanClasses {t : Text} {spans : List ClassSpan} (h : scanClasses t = .ok spans) :
    ∀ c ∈ spans, c.Framed t := by
  intro c hc
  obtain ⟨_, _, hspan⟩ := exists_header_of_scanClasses h c hc
  exact framed_of_span? hspan

theorem Spaced.pairwise {t : Text} {i : Nat} {spans : List ClassSpan} (h : Spaced t i spans) :
    spans.Pairwise (fun c d => c.stop ≤ d.start) := by
  induction spans generalizing i with
  | nil => exact List.Pairwise.nil
  | cons c spans ih =>
    obtain ⟨_, _, _, hrest⟩ := h
    exact List.pairwise_cons.mpr ⟨hrest.le_start, ih hrest⟩

/-! ## Positions that are kept -/

namespace Text

/-- The characters of a text whose positions, counted from a number, have a property. -/
def keptFrom (p : Nat → Prop) [DecidablePred p] (i : Nat) (t : Text) : Text :=
  ((t.zipIdx i).filter fun x => p x.2).map Prod.fst

/-- The characters of a text at the positions with a property. -/
def kept (p : Nat → Prop) [DecidablePred p] (t : Text) : Text :=
  keptFrom p 0 t

variable {p q : Nat → Prop} [DecidablePred p] [DecidablePred q]

theorem keptFrom_append (i : Nat) (s t : Text) :
    keptFrom p i (s ++ t) = keptFrom p i s ++ keptFrom p (i + s.length) t := by
  simp [keptFrom, List.zipIdx_append]

theorem keptFrom_congr {i : Nat} {t : Text}
    (h : ∀ j, i ≤ j → j < i + t.length → (p j ↔ q j)) : keptFrom p i t = keptFrom q i t := by
  unfold keptFrom
  refine congrArg (List.map Prod.fst) (List.filter_congr fun x hx => ?_)
  obtain ⟨c, j⟩ := x
  obtain ⟨hi, hj, _⟩ := List.mem_zipIdx hx
  exact decide_eq_decide.mpr (h j hi hj)

theorem keptFrom_eq_self {i : Nat} {t : Text} (h : ∀ j, i ≤ j → j < i + t.length → p j) :
    keptFrom p i t = t := by
  unfold keptFrom
  rw [List.filter_eq_self.mpr]
  · exact List.zipIdx_map_fst i t
  · rintro ⟨c, j⟩ hx
    obtain ⟨hi, hj, _⟩ := List.mem_zipIdx hx
    exact decide_eq_true (h j hi hj)

theorem keptFrom_eq_nil {i : Nat} {t : Text} (h : ∀ j, i ≤ j → j < i + t.length → ¬p j) :
    keptFrom p i t = [] := by
  unfold keptFrom
  rw [List.filter_eq_nil_iff.mpr]
  · rfl
  · rintro ⟨c, j⟩ hx
    obtain ⟨hi, hj, _⟩ := List.mem_zipIdx hx
    exact fun hp => h j hi hj (of_decide_eq_true hp)

theorem length_slice {t : Text} {i j : Nat} (h : i ≤ j) (hj : j ≤ t.length) :
    i + (t.slice i j).length = j := by
  unfold slice
  rw [List.length_take, List.length_drop]
  omega

end Text

/-- The position stands in a class of one of the names. -/
def InClass (names : List Text) (spans : List ClassSpan) (i : Nat) : Prop :=
  ∃ c ∈ spans, c.name ∈ names ∧ c.start ≤ i ∧ i < c.stop

instance (names : List Text) (spans : List ClassSpan) (i : Nat) :
    Decidable (InClass names spans i) :=
  decidable_of_iff
    (spans.any fun c => names.contains c.name && decide (c.start ≤ i ∧ i < c.stop)) <| by
    simp [InClass]

@[simp] theorem not_inClass_nil (names : List Text) (i : Nat) : ¬InClass names [] i :=
  fun ⟨_, hc, _⟩ => absurd hc List.not_mem_nil

theorem inClass_cons {names : List Text} {c : ClassSpan} {spans : List ClassSpan} {i : Nat} :
    InClass names (c :: spans) i ↔
      (c.name ∈ names ∧ c.start ≤ i ∧ i < c.stop) ∨ InClass names spans i := by
  simp [InClass, List.mem_cons, or_and_right, exists_or]

theorem not_inClass_of_lt {names : List Text} {t : Text} {spans : List ClassSpan} {i j : Nat}
    (h : Spaced t i spans) (hj : j < i) : ¬InClass names spans j := by
  rintro ⟨c, hc, _, hstart, _⟩
  have := h.le_start c hc
  omega

/-- **What is left of a code** are the characters that stand in no class of the names. -/
theorem without_eq_kept {names : List Text} {code : Text} {i : Nat} {spans : List ClassSpan}
    (h : Spaced code i spans) :
    ExtensionIndex.without names code i spans =
      Text.keptFrom (fun j => ¬InClass names spans j) i (code.drop i) := by
  induction spans generalizing i with
  | nil => exact (Text.keptFrom_eq_self fun j _ _ => not_inClass_nil names j).symm
  | cons c spans ih =>
    obtain ⟨hi, hc, hbrace, hrest⟩ := h
    have hstop : c.start ≤ c.stop := Nat.le_succ_of_le hc
    have hlength : c.stop ≤ code.length := (List.getElem?_eq_some_iff.mp hbrace).1
    have hbefore := Text.length_slice hi (Nat.le_trans hstop hlength)
    have hwithin := Text.length_slice hstop hlength
    rw [ExtensionIndex.without]
    by_cases hname : c.name ∈ names
    · have hcut : code.drop i =
          code.slice i c.start ++ (code.slice c.start c.stop ++ code.drop c.stop) := by
        rw [Text.slice_append_drop hstop, Text.slice_append_drop hi]
      have hkept : Text.keptFrom (fun j => ¬InClass names (c :: spans) j) i
          (code.slice i c.start) = code.slice i c.start := by
        refine Text.keptFrom_eq_self fun j _ hj => ?_
        rw [inClass_cons]
        rintro (⟨_, hstart, _⟩ | hlater)
        · omega
        · exact not_inClass_of_lt hrest (by omega) hlater
      have hgone : Text.keptFrom (fun j => ¬InClass names (c :: spans) j) c.start
          (code.slice c.start c.stop) = [] := by
        refine Text.keptFrom_eq_nil fun j hj hj' hnot => hnot (inClass_cons.mpr (.inl ?_))
        exact ⟨hname, hj, by omega⟩
      have hlater : Text.keptFrom (fun j => ¬InClass names (c :: spans) j) c.stop
          (code.drop c.stop) =
            Text.keptFrom (fun j => ¬InClass names spans j) c.stop (code.drop c.stop) := by
        refine Text.keptFrom_congr fun j hj _ => not_congr ?_
        rw [inClass_cons, or_iff_right]
        rintro ⟨_, _, hj'⟩
        omega
      rw [if_pos hname, hcut, Text.keptFrom_append, Text.keptFrom_append, hbefore, hwithin, hkept,
        hgone, hlater, ← ih hrest]
      rfl
    · rw [if_neg hname, ih (hrest.mono (Nat.le_trans hi hstop))]
      refine Text.keptFrom_congr fun j _ _ => not_congr ?_
      rw [inClass_cons, or_iff_right fun hin => hname hin.1]

/-! ## The index -/

namespace ExtensionIndex

theorem class?_ofCode (code : Text) (extended : List Text) (name : Text) :
    (ofCode code extended).class? name =
      ((spansOf (split code).body).find? (·.name = name)).map (classAt (split code).body) := by
  unfold class? ofCode
  rw [List.find?_map]
  rfl

theorem hasClass_ofCode_iff (code : Text) (extended : List Text) (name : Text) :
    (ofCode code extended).hasClass name = true ↔
      ∃ c ∈ spansOf (split code).body, c.name = name := by
  unfold hasClass
  rw [class?_ofCode, Option.isSome_map, List.find?_isSome]
  simp

theorem missing_of_no_class {index : ExtensionIndex}
    (h : ∀ name, index.hasClass name = false) : index.missing = index.extended :=
  List.filter_eq_self.mpr fun name _ => by rw [h]; rfl

end ExtensionIndex

open ExtensionIndex in
/-- **The index of a code cuts out what it should.** If its classes can be told, they stand behind
each other inside the code, each with its body in braces, and a scan through the bytes finds them at
the bytes at which these characters begin. The rest of the code are the characters that stand in no
class of an extended name. There is a class of a name exactly if a span has the name; it is then the
first of them, with its text and the text of its body, in braces, at the end of it. If the classes
cannot be told, there are none and the rest of the code is all of it. -/
theorem ofCode_cuts (code : Text) (extended : List Text) :
    let body := (split code).body
    let index := ofCode code extended
    match scanClasses body with
    | .ok spans =>
      (spans.Pairwise (fun c d => c.stop ≤ d.start) ∧
        ∀ c ∈ spans, c.start < c.bodyStart ∧ c.bodyStart ≤ c.bodyStop ∧ c.stop ≤ body.length) ∧
      (scanFrom {} 0 body.octets = .ok (spans.map (ClassSpan.placed body.offset)) ∧
        ∀ c ∈ spans,
          let b := c.placed body.offset
          b.stop = body.offset c.stop ∧
          ((Text.utf8 body).drop b.start).take (b.stop - b.start) =
            Text.utf8 (body.slice c.start c.stop) ∧
          ((Text.utf8 body).drop b.bodyStart).take (b.bodyStop - b.bodyStart) =
            Text.utf8 (body.slice c.bodyStart c.bodyStop)) ∧
      index.remainingCode =
        Text.trim (body.kept fun i =>
          ¬∃ c ∈ spans, c.name ∈ extended ∧ c.start ≤ i ∧ i < c.stop) ∧
      ∀ name,
        (index.hasClass name = true ↔ ∃ c ∈ spans, c.name = name) ∧
        index.class? name = (spans.find? (·.name = name)).map (fun c =>
          { name := c.name
            code := Text.trim (body.slice c.start c.stop)
            body := body.slice c.bodyStart c.bodyStop }) ∧
        ∀ k ∈ index.class? name, '\x7b' :: k.body ++ ['\x7d'] <:+ k.code
    | .error _ =>
      (∀ name, index.hasClass name = false) ∧ index.remainingCode = Text.trim body ∧
        index.missing = extended := by
  intro body index
  have hclass := hasClass_ofCode_iff code extended
  have hfind := class?_ofCode code extended
  have hremaining : index.remainingCode = Text.trim (without extended body 0 (spansOf body)) := rfl
  cases hscan : scanClasses body with
  | ok spans =>
    have hspans : spansOf body = spans := by
      unfold spansOf
      rw [hscan]
    rw [hspans] at hclass hfind hremaining
    have hspaced := spaced_scanClasses hscan
    have hframed := framed_scanClasses hscan
    refine ⟨⟨hspaced.pairwise, fun c hc => ?_⟩, ⟨?_, fun c hc => (hframed c hc).slices_placed⟩, ?_,
      fun name => ⟨hclass name, hfind name, fun k hk => ?_⟩⟩
    · have h := hframed c hc
      exact ⟨h.start_lt, h.bodyStart_le, h.stop_le_length⟩
    · rw [scanFrom_octets_eq, hscan]
      rfl
    · rw [hremaining, without_eq_kept hspaced]
      exact congrArg Text.trim (Text.keptFrom_congr fun i _ _ => Iff.rfl)
    · rw [hfind] at hk
      obtain ⟨c, hc, rfl⟩ := Option.map_eq_some_iff.mp hk
      exact (hframed c (List.mem_of_find?_eq_some hc)).braces_isSuffix
  | error fault =>
    have hspans : spansOf body = [] := by
      unfold spansOf
      rw [hscan]
    rw [hspans] at hclass hremaining
    have hnone : ∀ name, index.hasClass name = false := fun name =>
      Bool.eq_false_iff.mpr fun h =>
        let ⟨_, hc, _⟩ := (hclass name).mp h
        List.not_mem_nil hc
    exact ⟨hnone, hremaining, missing_of_no_class hnone⟩

end SchemaTypes
