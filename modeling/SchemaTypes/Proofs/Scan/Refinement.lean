import Mathlib.Data.List.Basic
import Mathlib.Tactic.Push
import SchemaTypes.Proofs.Scan.Header
import SchemaTypes.Proofs.Scan.Reading
import SchemaTypes.Proofs.Scan.State

/-!
# The scan reads positions

The states of a scan say of every position what counting the plain characters in front of it says.

* `Settled`: some headers have their classes, all of which end in front of a position.
* `OpenClass.Matches`, `ScanState.Matches`: the state of a scan in front of a position is right.
* `ScanState.Matches.advance`: it stays so past every character that is no stray brace.
* **`scanClasses_eq_reading`**: the scan finds the classes that the reading finds.
-/

namespace SchemaTypes

/-! ## Headers and open classes -/

/-- The headers have the classes, which end in front of the position. -/
def Settled (t : Text) (i : Nat) (hs : List Header) (done : List ClassSpan) : Prop :=
  hs.map (Header.span? t) = done.map some ∧ ∀ s ∈ done, s.bodyStop < i

namespace Settled

variable {t : Text} {i : Nat} {hs : List Header} {done : List ClassSpan}

theorem succ (h : Settled t i hs done) : Settled t (i + 1) hs done :=
  ⟨h.1, fun s hs => Nat.lt_succ_of_lt (h.2 s hs)⟩

theorem exists_span (h : Settled t i hs done) {x : Header} (hx : x ∈ hs) :
    ∃ s ∈ done, x.span? t = some s := by
  have : x.span? t ∈ done.map some := h.1 ▸ List.mem_map_of_mem hx
  obtain ⟨s, hs, e⟩ := List.mem_map.mp this
  exact ⟨s, hs, e.symm⟩

theorem not_waits (h : Settled t i hs done) {x : Header} (hx : x ∈ hs) : ¬x.Waits t i := by
  intro hw
  obtain ⟨s, hs, e⟩ := h.exists_span hx
  obtain ⟨j, hj, _, hlt, _⟩ := Header.bodyBrace_of_span? e
  obtain ⟨hstart, hplain, _⟩ := Header.bodyBrace?_eq_some_iff.mp hj
  exact hw j (hlt.trans (h.2 s hs)) hstart hplain

theorem endsOpen (h : Settled t i hs done) {x : Header} (hx : x ∈ hs) : x.endsOpen t = false := by
  obtain ⟨s, _, e⟩ := h.exists_span hx
  obtain ⟨j, hj, hc, _, _⟩ := Header.bodyBrace_of_span? e
  rw [Header.endsOpen, hj]
  simp [hc]

theorem find?_waits (h : Settled t i hs done) : hs.find? (Header.Waits t i) = none := by
  rw [List.find?_eq_none]
  intro x hx
  simp [h.not_waits hx]

theorem find?_endsOpen (h : Settled t i hs done) : hs.find? (Header.endsOpen t) = none := by
  rw [List.find?_eq_none]
  intro x hx
  simp [h.endsOpen hx]

theorem filterMap_span? (h : Settled t i hs done) : hs.filterMap (Header.span? t) = done := by
  have : hs.filterMap (Header.span? t) = (hs.map (Header.span? t)).filterMap id := by
    rw [List.filterMap_map]; rfl
  rw [this, h.1, List.filterMap_map]
  exact List.filterMap_some

theorem append (h : Settled t i hs done) {x : Header} {s : ClassSpan} (hx : x.span? t = some s)
    (hlt : s.bodyStop < i) : Settled t i (hs ++ [x]) (done ++ [s]) := by
  refine ⟨by rw [List.map_append, List.map_append, h.1, List.map_singleton, List.map_singleton, hx],
    fun u hu => ?_⟩
  rcases List.mem_append.mp hu with hu | hu
  · exact h.2 u hu
  · rw [List.mem_singleton.mp hu]
    exact hlt

end Settled

theorem Header.Waits.succ {t : Text} {i : Nat} {h : Header} (hw : h.Waits t i)
    (hi : ¬PlainAt t i '\x7b') : h.Waits t (i + 1) := by
  intro j hj hstart hplain
  rcases Nat.lt_succ_iff_lt_or_eq.mp hj with hj | rfl
  · exact hw j hj hstart hplain
  · exact hi hplain

/-- What is open in front of a position, where so many braces are, is what the headers before it
leave open; all but the last of them have their classes. -/
def OpenClass.Matches (t : Text) (i depth : Nat) (hs : List Header) (done : List ClassSpan) :
    OpenClass → Prop
  | .none => Settled t i hs done
  | .waiting name start =>
    depth = 0 ∧ start ≤ i ∧ Header.Waits t i ⟨name, start⟩ ∧
      ∃ earlier, hs = earlier ++ [⟨name, start⟩] ∧ Settled t i earlier done
  | .opened name start bodyStart =>
    0 < depth ∧ (∃ brace, bodyStart = brace + 1 ∧ brace < i ∧
        Header.bodyBrace? t ⟨name, start⟩ = some brace ∧ depthAt t brace = 0 ∧
        ∀ j, brace < j → j < i → 0 < depthAt t (j + 1)) ∧
      ∃ earlier, hs = earlier ++ [⟨name, start⟩] ∧ Settled t i earlier done

namespace OpenClass.Matches

variable {t : Text} {i d : Nat} {hs : List Header} {done : List ClassSpan}

/-- **A character that is no brace** leaves open what is open. -/
theorem other {o : OpenClass} (h : o.Matches t i d hs done) (hd : depthAt t i = d)
    (hb : ¬PlainAt t i '\x7b') (hb' : ¬PlainAt t i '\x7d') : o.Matches t (i + 1) d hs done := by
  cases o with
  | none => exact Settled.succ h
  | waiting name start =>
    obtain ⟨h₀, hstart, hw, earlier, e, hset⟩ := h
    exact ⟨h₀, Nat.le_succ_of_le hstart, hw.succ hb, earlier, e, hset.succ⟩
  | opened name start bodyStart =>
    obtain ⟨hpos, ⟨brace, e₁, hlt, hbody, hzero, habove⟩, earlier, e, hset⟩ := h
    refine ⟨hpos, ⟨brace, e₁, Nat.lt_succ_of_lt hlt, hbody, hzero, fun j hj hj' => ?_⟩, earlier, e,
      hset.succ⟩
    rcases Nat.lt_succ_iff_lt_or_eq.mp hj' with hj' | rfl
    · exact habove j hj hj'
    · rw [depthAt_succ_of_neither hb hb', hd]
      exact_mod_cast hpos

end OpenClass.Matches

/-! ## States -/

/-- **The state in front of a position is right**: the zone tells which structural characters are
plain from there on, and no brace before it is stray. -/
structure ScanState.Matches (t : Text) (i : Nat) (done : List ClassSpan) (s : ScanState) :
    Prop where
  plain : ∀ j c, isStructural c = true → (PlainAt t (i + j) c ↔
    (t.drop i)[j]? = some c ∧ (s.zone.marks (t.drop i))[j]? = some true)
  depth : depthAt t i = s.depth
  line : StartsLine t i ↔ s.zone = .code ∧ s.atLineStart = true
  calm : ∀ j < i, PlainAt t j '\x7d' → depthAt t j ≠ 0
  current : s.current.Matches t i s.depth (headersBefore t i) done

namespace ScanState

variable {t : Text} {i : Nat} {done : List ClassSpan} {s : ScanState} {c : Char} {r : Text}

theorem Matches.initial (t : Text) : ({} : ScanState).Matches t 0 [] where
  plain j c hc := by rw [Nat.zero_add, List.drop_zero]; exact plainAt_iff hc
  depth := rfl
  line := by simp [StartsLine]
  calm j hj := absurd hj (Nat.not_lt_zero j)
  current := ⟨rfl, by simp⟩

theorem Matches.plainAt_iff (h : s.Matches t i done) (ht : t.drop i = c :: r) {d : Char}
    (hd : isStructural d = true) : PlainAt t i d ↔ s.zone.isCode c = true ∧ c = d := by
  have := h.plain 0 d hd
  rw [Nat.add_zero, ht] at this
  rw [this, and_comm]
  simp [Zone.marks]

theorem Matches.noteHeader_iff (h : s.Matches t i done) :
    (s.zone = .code ∧ s.atLineStart ∧ s.depth = 0 ∧ s.current = .none) ↔
      (StartsLine t i ∧ depthAt t i = 0 ∧ ∀ x ∈ headersBefore t i, ¬x.Waits t i) := by
  have hcur := h.current
  constructor
  · rintro ⟨hz, hl, hd, hc⟩
    rw [hc] at hcur
    exact ⟨h.line.mpr ⟨hz, hl⟩, by rw [h.depth, hd]; rfl, fun x hx => Settled.not_waits hcur hx⟩
  · rintro ⟨hl, hd, hw⟩
    have hd' : s.depth = 0 := by have := h.depth; omega
    obtain ⟨hz, ha⟩ := h.line.mp hl
    refine ⟨hz, ha, hd', ?_⟩
    cases hc : s.current with
    | none => rfl
    | waiting name start =>
      rw [hc] at hcur
      obtain ⟨_, _, hwait, earlier, e, _⟩ := hcur
      refine absurd hwait (hw _ ?_)
      rw [e]
      exact List.mem_append_right _ (List.mem_singleton_self _)
    | opened name start bodyStart =>
      rw [hc] at hcur
      exact absurd hcur.1 (by omega)

/-- **Noting the header in front of the position** takes in the headers that start there. -/
theorem Matches.noteHeader (h : s.Matches t i done) :
    (s.noteHeader i (t.drop i)).current.Matches t i s.depth (headersBefore t (i + 1)) done := by
  have hcur := h.current
  have hnote := h.noteHeader_iff
  rw [headersBefore]
  unfold ScanState.noteHeader
  cases hname : classHeader? (t.drop i) with
  | none => split_ifs <;> exact hcur
  | some name =>
    by_cases hc : s.zone = .code ∧ s.atLineStart ∧ s.depth = 0 ∧ s.current = .none
    · have hc' := hnote.mp hc
      obtain ⟨hz, ha, hd, hnone⟩ := hc
      rw [hnone] at hcur
      simp only [if_pos hc', hz, ha, hd, hnone, and_self, if_true]
      refine ⟨rfl, Nat.le_refl i, fun j hj hj' => absurd hj (Nat.not_lt.mpr hj'), _, rfl, hcur⟩
    · simp only [if_neg hc, if_neg (mt hnote.mpr hc)]
      exact hcur

/-- **Opening a brace** opens the body for a header that waits. -/
theorem openBrace_matches {hs : List Header}
    (h : s.current.Matches t i s.depth hs done) (hd : depthAt t i = s.depth)
    (hb : PlainAt t i '\x7b') :
    (s.openBrace i).current.Matches t (i + 1) (s.depth + 1) hs done := by
  have hd' : depthAt t (i + 1) = (s.depth + 1 : Nat) := by
    rw [depthAt_succ_of_open hb, hd]; rfl
  unfold openBrace
  cases hc : s.current with
  | none =>
    rw [hc] at h
    split
    · next h' => exact absurd h' (by simp)
    · exact Settled.succ h
  | waiting name start =>
    rw [hc] at h
    obtain ⟨h₀, hstart, hw, earlier, e, hset⟩ := h
    simp only [h₀]
    refine ⟨Nat.one_pos, ⟨i, rfl, Nat.lt_succ_self i, ?_, by rw [hd, h₀]; rfl, fun j hj hj' => ?_⟩,
      earlier, e, hset.succ⟩
    · exact Header.bodyBrace?_eq_some_iff.mpr ⟨hstart, hb, hw⟩
    · omega
  | opened name start bodyStart =>
    rw [hc] at h
    obtain ⟨hpos, ⟨brace, e₁, hlt, hbody, hzero, habove⟩, earlier, e, hset⟩ := h
    split
    · next h' => exact absurd h' (by simp)
    refine ⟨Nat.succ_pos _, ⟨brace, e₁, Nat.lt_succ_of_lt hlt, hbody, hzero, fun j hj hj' => ?_⟩,
      earlier, e, hset.succ⟩
    rcases Nat.lt_succ_iff_lt_or_eq.mp hj' with hj' | rfl
    · exact habove j hj hj'
    · omega

/-- **Closing a brace** that is open closes the body that it ends, and the class is done. -/
theorem closeBrace_matches {hs : List Header}
    (h : s.current.Matches t i s.depth hs done) (hd : depthAt t i = s.depth) (h₀ : s.depth ≠ 0)
    (hb : PlainAt t i '\x7d') :
    (s.closeBrace i).1.current.Matches t (i + 1) (s.depth - 1) hs
      (done ++ (s.closeBrace i).2.toList) := by
  have hd' : depthAt t (i + 1) = (s.depth - 1 : Nat) := by
    rw [depthAt_succ_of_close hb, hd]; omega
  unfold closeBrace
  cases hc : s.current with
  | none =>
    rw [hc] at h
    split
    · next h' => exact absurd h' (by simp)
    · rw [Option.toList_none, List.append_nil]
      exact Settled.succ h
  | waiting name start =>
    rw [hc] at h
    exact absurd h.1 h₀
  | opened name start bodyStart =>
    rw [hc] at h
    obtain ⟨hpos, ⟨brace, e₁, hlt, hbody, hzero, habove⟩, earlier, e, hset⟩ := h
    by_cases h₁ : s.depth = 1
    · -- the body ends here: no brace before has taken the depth back to where it began
      have hclose : closingBrace? t brace = some i := by
        unfold closingBrace?
        rw [List.find?_range_eq_some]
        refine ⟨by simpa using ⟨hlt, hb, by omega⟩, List.mem_range.mpr hb.lt, fun j hj => ?_⟩
        simp only [Bool.not_eq_true', decide_eq_false_iff_not, not_and]
        intro hj' _ he
        have := habove j hj' hj
        omega
      have hspan : Header.span? t ⟨name, start⟩ = some ⟨name, start, bodyStart, i⟩ := by
        rw [Header.span?, hbody]
        simp only [hclose, Option.map_some, e₁]
      simp only [h₁, e]
      exact hset.succ.append hspan (Nat.lt_succ_self i)
    · split
      · next h' _ => exact absurd h' h₁
      refine ⟨by omega, ⟨brace, e₁, Nat.lt_succ_of_lt hlt, hbody, hzero, fun j hj hj' => ?_⟩,
        earlier, e, by simpa using hset.succ⟩
      rcases Nat.lt_succ_iff_lt_or_eq.mp hj' with hj' | rfl
      · exact habove j hj hj'
      · omega

/-- **Going past a character** keeps a state right, if what it opens is right behind it. -/
theorem Matches.advance (h : s.Matches t i done) (ht : t.drop i = c :: r) {s' : ScanState}
    {done' : List ClassSpan} (hz : s'.zone = s.zone) (hd : depthAt t (i + 1) = s'.depth)
    (hcalm : PlainAt t i '\x7d' → depthAt t i ≠ 0)
    (hcur : s'.current.Matches t (i + 1) s'.depth (headersBefore t (i + 1)) done') :
    (s'.advance c r).Matches t (i + 1) done' where
  plain j d hj := by
    have hr := (Text.of_drop_eq_cons ht).2.1
    have := h.plain (j + 1) d hj
    rw [ht, Zone.marks, List.getElem?_cons_succ, List.getElem?_cons_succ] at this
    rw [hr, Nat.add_right_comm, ← hz] at *
    exact this
  depth := hd
  line := by
    change PlainAt t i '\n' ↔
      s'.zone.after c r = .code ∧ (s'.zone.isCode c && decide (c = '\n')) = true
    rw [h.plainAt_iff ht rfl, hz, Bool.and_eq_true, decide_eq_true_eq]
    constructor
    · rintro ⟨hc, rfl⟩
      exact ⟨Zone.after_of_newline hc, hc, rfl⟩
    · exact fun h => h.2
  calm j hj hplain := by
    rcases Nat.lt_succ_iff_lt_or_eq.mp hj with hj | rfl
    · exact h.calm j hj hplain
    · exact hcalm hplain
  current := hcur

/-! ## Runs -/

/-- At the end of a code the state tells the reading. -/
theorem Matches.scanFrom_nil (h : s.Matches t t.length done) :
    (scanFrom s t.length []).map (done ++ ·) = readingAt id t := by
  have hstray : strayBrace? t = none := by
    unfold strayBrace?
    rw [List.find?_range_eq_none]
    intro j hj
    simp only [Bool.not_eq_true', decide_eq_false_iff_not, not_and]
    exact h.calm j hj
  have hcur := h.current
  unfold scanFrom readingAt headers
  rw [hstray]
  cases hc : s.current with
  | none =>
    rw [hc] at hcur
    have hset : Settled t t.length (headersBefore t t.length) done := hcur
    simp only [hset.find?_endsOpen, hset.find?_waits, hset.filterMap_span?]
    exact congrArg Except.ok (List.append_nil done)
  | waiting name start =>
    rw [hc] at hcur
    obtain ⟨_, _, hw, earlier, e, hset⟩ := hcur
    have h₁ : (headersBefore t t.length).find? (Header.endsOpen t) = none := by
      rw [e, List.find?_append, hset.find?_endsOpen, Option.none_or, List.find?_singleton,
        if_neg (by simp [hw.endsOpen])]
    have h₂ : (headersBefore t t.length).find? (Header.Waits t t.length) = some ⟨name, start⟩ := by
      rw [e, List.find?_append, hset.find?_waits, Option.none_or, List.find?_singleton,
        if_pos (decide_eq_true hw)]
    simp only [h₁, h₂]
    rfl
  | opened name start bodyStart =>
    rw [hc] at hcur
    obtain ⟨_, ⟨brace, _, hlt, hbody, hzero, habove⟩, earlier, e, hset⟩ := hcur
    have hclose : closingBrace? t brace = none := by
      unfold closingBrace?
      rw [List.find?_range_eq_none]
      intro j hj
      simp only [Bool.not_eq_true', decide_eq_false_iff_not, not_and]
      intro hj' _ he
      have := habove j hj' hj
      omega
    have hopen : Header.endsOpen t ⟨name, start⟩ = true := by
      rw [Header.endsOpen, hbody]
      simp [hclose]
    have h₁ : (headersBefore t t.length).find? (Header.endsOpen t) = some ⟨name, start⟩ := by
      rw [e, List.find?_append, hset.find?_endsOpen, Option.none_or, List.find?_singleton,
        if_pos hopen]
    simp only [h₁]
    rfl

/-- **From a right state the scan finds what the reading finds.** -/
theorem Matches.scanFrom_eq (rest : Text) : ∀ {s : ScanState} {i : Nat} {done : List ClassSpan},
    t.drop i = rest → i ≤ t.length → s.Matches t i done →
      (scanFrom s i rest).map (done ++ ·) = readingAt id t := by
  induction rest with
  | nil =>
    intro s i done ht hi h
    obtain rfl : i = t.length := Nat.le_antisymm hi (List.drop_eq_nil_iff.mp ht)
    exact h.scanFrom_nil
  | cons c r ih =>
    intro s i done ht hi h
    obtain ⟨_, hr, hi'⟩ := Text.of_drop_eq_cons ht
    have hcur := h.noteHeader
    have hz := zone_noteHeader s i (c :: r)
    have hd := depth_noteHeader s i (c :: r)
    rw [ht] at hcur
    rw [scanFrom]
    generalize s.noteHeader i (c :: r) = s' at hcur hz hd ⊢
    rw [← hd] at hcur
    have hdepth : depthAt t i = s'.depth := by rw [hd, h.depth]
    have hopen : PlainAt t i '\x7b' ↔ s'.zone.isCode c = true ∧ c = '\x7b' := by
      rw [h.plainAt_iff ht rfl, hz]
    have hclose : PlainAt t i '\x7d' ↔ s'.zone.isCode c = true ∧ c = '\x7d' := by
      rw [h.plainAt_iff ht rfl, hz]
    by_cases ho : PlainAt t i '\x7b'
    · have hnc : ¬PlainAt t i '\x7d' := fun h' => absurd (ho.unique h') (by decide)
      simp only [if_pos (hopen.mp ho)]
      refine ih hr hi' (h.advance ht (by simp [hz]) ?_ (absurd · hnc) ?_)
      · rw [depthAt_succ_of_open ho, hdepth, depth_openBrace]
        rfl
      · rw [depth_openBrace]
        exact openBrace_matches hcur hdepth ho
    · simp only [if_neg (mt hopen.mpr ho)]
      by_cases hx : PlainAt t i '\x7d'
      · simp only [if_pos (hclose.mp hx)]
        by_cases h₀ : s'.depth = 0
        · -- the brace is stray
          have hstray : strayBrace? t = some i := by
            unfold strayBrace?
            rw [List.find?_range_eq_some]
            refine ⟨by simp [hx, hdepth, h₀], List.mem_range.mpr hx.lt, fun j hj => ?_⟩
            simp only [Bool.not_eq_true', decide_eq_false_iff_not, not_and]
            exact h.calm j hj
          rw [if_pos h₀, readingAt, hstray]
          rfl
        · rw [if_neg h₀]
          have hnext : ((s'.closeBrace i).1.advance c r).Matches t (i + 1)
              (done ++ (s'.closeBrace i).2.toList) := by
            refine h.advance ht (by simp [hz]) ?_ (fun _ => by omega) ?_
            · rw [depthAt_succ_of_close hx, hdepth, depth_closeBrace]
              omega
            · rw [depth_closeBrace]
              exact closeBrace_matches hcur hdepth h₀ hx
          rw [← ih hr hi' hnext]
          cases scanFrom ((s'.closeBrace i).1.advance c r) (i + 1) r with
          | error f => rfl
          | ok spans => simp [Except.map]
      · simp only [if_neg (mt hclose.mpr hx)]
        refine ih hr hi' (h.advance ht hz ?_ (absurd · hx) (hcur.other hdepth ho hx))
        rw [depthAt_succ_of_neither ho hx, hdepth]

end ScanState

/-! ## Readings -/

/-- If no header waits or is left open, every header has its class. -/
theorem map_span?_of_reading {t : Text} {spans : List ClassSpan} (h : reading t = .ok spans) :
    (headers t).map (Header.span? t) = spans.map some := by
  unfold reading readingAt at h
  split at h
  · exact absurd h (by simp)
  split at h
  · exact absurd h (by simp)
  split at h
  · exact absurd h (by simp)
  next hopen _ hwaits =>
  have hspans : (headers t).filterMap (Header.span? t) = spans := by simpa using h
  rw [List.find?_eq_none] at hopen hwaits
  rw [← hspans, List.map_filterMap, eq_comm, List.filterMap_eq_map_iff_forall_eq_some]
  intro x hx
  cases hb : x.bodyBrace? t with
  | none =>
    -- without a brace behind it the header waits
    have hw := hwaits x hx
    rw [decide_eq_true_eq, Header.Waits] at hw
    push Not at hw
    obtain ⟨j, hj, hstart, hplain⟩ := hw
    unfold Header.bodyBrace? at hb
    rw [List.find?_range_eq_none] at hb
    exact absurd (hb j hj) (by simpa using ⟨hstart, hplain⟩)
  | some j =>
    have ho := hopen x hx
    rw [Header.endsOpen, hb] at ho
    obtain ⟨k, hk⟩ := Option.ne_none_iff_exists'.mp (by simpa using ho)
    simp [Header.span?, hb, hk]

theorem scanClasses_reading (t : Text) : scanClasses t = reading t := by
  have h := (ScanState.Matches.initial t).scanFrom_eq t List.drop_zero (Nat.zero_le _)
  have hmap : (scanFrom {} 0 t).map (([] : List ClassSpan) ++ ·) = scanFrom {} 0 t := by
    cases scanFrom {} 0 t <;> rfl
  rw [hmap] at h
  unfold scanClasses reading
  rw [h]
  unfold readingAt
  cases strayBrace? t with
  | some i => rfl
  | none =>
    cases (headers t).find? (Header.endsOpen t) with
    | some x => rfl
    | none => cases (headers t).find? (Header.Waits t t.length) <;> rfl

/-- **The scan of a code finds the classes that are read off its positions**: what is a header is
told by the pattern of headers, and there is one class for each header that counts. -/
theorem scanClasses_eq_reading (t : Text) :
    scanClasses t = reading t ∧
      (∀ u name, classHeader? u = some name ↔ IsClassHeader u name) ∧
      ∀ spans, scanClasses t = .ok spans → (headers t).map (Header.span? t) = spans.map some := by
  have heq := scanClasses_reading t
  refine ⟨heq, fun _ _ => classHeader?_eq_some_iff, fun spans hs => map_span?_of_reading ?_⟩
  rw [← heq, hs]

end SchemaTypes
