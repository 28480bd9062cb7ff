import Mathlib
import SchemaTypes.Proofs.Scan.Header
import SchemaTypes.Proofs.Scan.Passage
import SchemaTypes.Proofs.Text.Octets

/-!
# Scans byte by byte

All that a scan looks for is of ASCII. So it may go through the UTF-8 bytes of a code: it finds the
same classes, and each position is the byte at which the character stands.

* `classHeader?_octets`: the headers in front of a text and in front of its bytes.
* `ScanState.behindHigh`, `passes_high`: what characters that are not of ASCII do to a scan.
* `ScanState.placed`: a state whose positions are told otherwise.
* **`scanFrom_octets`**: a scan through the bytes.
-/

namespace SchemaTypes

open Text (IsAscii isHigh)

/-! ## Headers -/

theorem IsSpacing.isAscii {t : Text} (h : IsSpacing t) : t.IsAscii := by
  intro c hc
  have hspacing := h c hc
  simp only [isSpacing, Bool.or_eq_true, decide_eq_true_eq] at hspacing
  rcases hspacing with rfl | rfl <;> decide

theorem IsWord.isAscii {word t : Text} (hword : word.IsAscii) (h : IsWord word t) : t.IsAscii := by
  obtain ⟨gap, _, hgap, rfl⟩ := h
  exact hword.append hgap.isAscii

theorem IsOptionalWord.isAscii {word t : Text} (hword : word.IsAscii) (h : IsOptionalWord word t) :
    t.IsAscii := by
  rcases h with rfl | h
  · exact fun c hc => absurd hc List.not_mem_nil
  · exact h.isAscii hword

theorem isHigh_of_isNamePart {c : Char} (h : isNamePart c = true) : isHigh c = false := by
  simp only [isNamePart, Char.isAlphanum, Char.isAlpha, Char.isUpper, Char.isLower, Char.isDigit,
    Bool.or_eq_true, Bool.and_eq_true, decide_eq_true_eq, ge_iff_le, UInt32.le_iff_toNat_le] at h
  have hlt : c.val.toNat < 128 := by
    rcases h with (((⟨_, h⟩ | ⟨_, h⟩) | ⟨_, h⟩) | rfl) | rfl
    · exact Nat.lt_of_le_of_lt h (by decide)
    · exact Nat.lt_of_le_of_lt h (by decide)
    · exact Nat.lt_of_le_of_lt h (by decide)
    · decide
    · decide
  exact decide_eq_false (Nat.not_le_of_lt hlt)

theorem isNamePart_of_isNameStart {c : Char} (h : isNameStart c = true) : isNamePart c = true := by
  simp only [isNameStart, isNamePart, Char.isAlphanum, Bool.or_eq_true] at h ⊢
  rcases h with (h | h) | h
  · exact .inl (.inl (.inl h))
  · exact .inl (.inr h)
  · exact .inr h

theorem IsName.isAscii {t : Text} (h : IsName t) : t.IsAscii := by
  obtain ⟨c, r, rfl, hc, hr⟩ := h
  refine List.forall_mem_cons.mpr ⟨isHigh_of_isNamePart (isNamePart_of_isNameStart hc), ?_⟩
  exact fun d hd => isHigh_of_isNamePart (hr d hd)

theorem isNamePart_head?_octets (t : Text) :
    (∀ c ∈ t.octets.head?, isNamePart c = false) ↔ ∀ c ∈ t.head?, isNamePart c = false := by
  constructor <;>
  · intro h c hc
    rw [Bool.eq_false_iff]
    intro hpart
    have hascii := isHigh_of_isNamePart hpart
    have hfalse := h c (by first
      | exact (Text.head?_octets hascii t).mpr hc
      | exact (Text.head?_octets hascii t).mp hc)
    rw [hpart] at hfalse
    exact Bool.noConfusion hfalse

/-- A header is some text of ASCII, and what follows it matters only as far as the name may not go
on there. -/
theorem IsClassHeader.exists_eq_append {t name : Text} (h : IsClassHeader t name) :
    ∃ u rest, t = u ++ rest ∧ u.IsAscii ∧ u ≠ [] ∧ (∀ c ∈ rest.head?, isNamePart c = false) ∧
      ∀ rest', (∀ c ∈ rest'.head?, isNamePart c = false) → IsClassHeader (u ++ rest') name := by
  have hwords : ∀ word ∈ [("export" : Text), "default", "abstract", "class"], word.IsAscii := by
    simp [Text.ofString_eq, IsAscii, isHigh]
  simp only [List.forall_mem_cons, List.not_mem_nil, false_implies, implies_true, and_true]
    at hwords
  obtain ⟨hexport, hdefault, habstract, hclass⟩ := hwords
  obtain ⟨lead, exported, default, abstract, keyword, rest, rfl, hl, hx, hd, ha, hk, hn, hrest⟩ := h
  have hascii : (lead ++ (exported ++ (default ++ (abstract ++ (keyword ++ name))))).IsAscii :=
    hl.isAscii.append <| (hx.isAscii hexport).append <| (hd.isAscii hdefault).append <|
      (ha.isAscii habstract).append <| (hk.isAscii hclass).append hn.isAscii
  have hname : name ≠ [] := by
    obtain ⟨c, r, rfl, _⟩ := hn
    exact List.cons_ne_nil c r
  refine ⟨_, rest, by simp, hascii, by simp [hname], hrest, fun rest' hrest' => ?_⟩
  exact ⟨lead, exported, default, abstract, keyword, rest', by simp, hl, hx, hd, ha, hk, hn, hrest'⟩

/-- **A header in front of the bytes** is one in front of the text. -/
theorem classHeader?_octets (t : Text) : classHeader? t.octets = classHeader? t := by
  refine Option.ext fun name => ?_
  rw [classHeader?_eq_some_iff, classHeader?_eq_some_iff]
  constructor
  · intro h
    obtain ⟨u, rest, ht, hascii, _, hrest, hheader⟩ := h.exists_eq_append
    obtain ⟨v, rfl, rfl⟩ := Text.exists_of_octets_eq_append hascii ht
    exact hheader v ((isNamePart_head?_octets v).mp hrest)
  · intro h
    obtain ⟨u, rest, rfl, hascii, _, hrest, hheader⟩ := h.exists_eq_append
    rw [Text.octets_append_of_isAscii hascii]
    exact hheader _ ((isNamePart_head?_octets rest).mpr hrest)

theorem classHeader?_of_isHigh {c : Char} (hc : isHigh c = true) (t : Text) :
    classHeader? (c :: t) = none := by
  rw [Option.eq_none_iff_forall_ne_some]
  intro name hname
  obtain ⟨u, rest, ht, hascii, hne, _⟩ := (classHeader?_eq_some_iff.mp hname).exists_eq_append
  obtain ⟨d, u, rfl⟩ := List.exists_cons_of_ne_nil hne
  obtain ⟨rfl, _⟩ := List.cons.inj ht
  rw [hascii c List.mem_cons_self] at hc
  exact Bool.noConfusion hc

/-! ## Characters that are not of ASCII -/

/-- The zone behind a character that is not of ASCII. -/
def Zone.behindHigh : Zone → Zone
  | code => code
  | literal q => literal q
  | escaped q => literal q
  | lineComment => lineComment
  | blockOpening => block
  | block => block
  | blockClosing => code

/-- The quotes of the zone are of ASCII. -/
def Zone.QuotesAscii : Zone → Prop
  | literal q => isHigh q = false
  | escaped q => isHigh q = false
  | _ => True

namespace Zone

variable {z : Zone} {c : Char}

theorem ne_of_isHigh {c d : Char} (hc : isHigh c = true) (hd : isHigh d = false) : c ≠ d := by
  rintro rfl
  rw [hc] at hd
  exact Bool.noConfusion hd

theorem isHigh_of_isQuote (h : isQuote c = true) : isHigh c = false := by
  simp only [isQuote, Bool.or_eq_true, decide_eq_true_eq] at h
  rcases h with (rfl | rfl) | rfl <;> decide

theorem QuotesAscii.after (h : z.QuotesAscii) (c : Char) (rest : Text) :
    (z.after c rest).QuotesAscii := by
  unfold Zone.after
  cases z with
  | code =>
    dsimp only
    split_ifs with hquote
    · exact isHigh_of_isQuote hquote
    · trivial
    · trivial
    · trivial
  | literal q =>
    dsimp only
    split_ifs
    · exact h
    · trivial
    · exact h
  | escaped q => exact h
  | lineComment =>
    dsimp only
    split_ifs <;> trivial
  | block =>
    dsimp only
    split_ifs <;> trivial
  | blockOpening => trivial
  | blockClosing => trivial

theorem after_of_isHigh (h : z.QuotesAscii) (hc : isHigh c = true) (rest : Text) :
    z.after c rest = z.behindHigh := by
  have hne : ∀ {d : Char}, isHigh d = false → c ≠ d := fun hd => ne_of_isHigh hc hd
  unfold Zone.after Zone.behindHigh
  cases z with
  | code =>
    have hquote : ¬isQuote c = true := fun hquote => by
      rw [isHigh_of_isQuote hquote] at hc
      exact Bool.noConfusion hc
    simp [hquote, hne (d := '/') (by decide)]
  | literal q => simp [hne (d := '\\') (by decide), hne (show isHigh q = false from h)]
  | escaped q => rfl
  | lineComment => simp [hne (d := '\n') (by decide)]
  | block => simp [hne (d := '*') (by decide)]
  | blockOpening => rfl
  | blockClosing => rfl

theorem QuotesAscii.behindHigh (h : z.QuotesAscii) : z.behindHigh.QuotesAscii := by
  cases z <;> exact h

theorem behindHigh_behindHigh (z : Zone) : z.behindHigh.behindHigh = z.behindHigh := by
  cases z <;> rfl

end Zone

/-- The state behind a character that is not of ASCII. -/
def ScanState.behindHigh (s : ScanState) : ScanState :=
  s.within s.zone.behindHigh

theorem scanFrom_of_isHigh {s : ScanState} (hs : s.zone.QuotesAscii) {c : Char}
    (hc : isHigh c = true) (i : Nat) (rest : Text) :
    scanFrom s i (c :: rest) = scanFrom s.behindHigh (i + 1) rest := by
  have hbrace : ∀ {d : Char}, isHigh d = false → ¬(s.zone.isCode c = true ∧ c = d) :=
    fun hd h => Zone.ne_of_isHigh hc hd h.2
  rw [scanFrom, s.noteHeader_of_no_header i (classHeader?_of_isHigh hc rest),
    if_neg (hbrace (by decide)), if_neg (hbrace (by decide))]
  have hline : (s.zone.isCode c && c = '\n') = false := by
    rw [Bool.and_eq_false_iff]
    exact .inr (decide_eq_false (Zone.ne_of_isHigh hc (by decide)))
  unfold ScanState.advance
  rw [hline, Zone.after_of_isHigh hs hc]
  rfl

theorem passes_high {s : ScanState} (hs : s.zone.QuotesAscii) {d : Char} {ds : Text}
    (h : ∀ e ∈ d :: ds, isHigh e = true) : Passes (d :: ds) s s.behindHigh := by
  induction ds generalizing d s with
  | nil => exact fun i rest => scanFrom_of_isHigh hs (h d List.mem_cons_self) i rest
  | cons e ds ih =>
    intro i rest
    obtain ⟨hd, hds⟩ := List.forall_mem_cons.mp h
    have hbehind : s.behindHigh.zone.QuotesAscii := hs.behindHigh
    have hagain : s.behindHigh.behindHigh = s.behindHigh := by
      simp [ScanState.behindHigh, ScanState.within, Zone.behindHigh_behindHigh]
    rw [List.cons_append, scanFrom_of_isHigh hs hd, ih hbehind hds, hagain, Nat.add_assoc,
      Nat.add_comm 1]
    rfl

/-! ## Positions told otherwise -/

section Placed

variable (place : Nat → Nat)

/-- The span whose positions are told by their places. -/
def ClassSpan.placed (c : ClassSpan) : ClassSpan :=
  ⟨c.name, place c.start, place c.bodyStart, place c.bodyStop⟩

/-- The open class whose positions are told by their places. -/
def OpenClass.placed : OpenClass → OpenClass
  | none => none
  | waiting name start => waiting name (place start)
  | opened name start bodyStart => opened name (place start) (place bodyStart)

/-- The fault whose position is told by its place. -/
def ClassFault.placed : ClassFault → ClassFault
  | strayClosingBrace i => strayClosingBrace (place i)
  | fault => fault

/-- The classes of a code, or why they cannot be told, with their positions told by their places. -/
def placedClasses : Except ClassFault (List ClassSpan) → Except ClassFault (List ClassSpan)
  | .ok spans => .ok (spans.map (ClassSpan.placed place))
  | .error fault => .error (fault.placed place)

namespace ScanState

/-- The state whose positions are told by their places. -/
def placed (s : ScanState) : ScanState :=
  { s with current := s.current.placed place }

variable {place} (s : ScanState) (i : Nat)

@[simp] theorem zone_placed : (s.placed place).zone = s.zone := rfl

@[simp] theorem depth_placed : (s.placed place).depth = s.depth := rfl

theorem placed_noteHeader {t t' : Text} (h : classHeader? t' = classHeader? t) :
    (s.placed place).noteHeader (place i) t' = (s.noteHeader i t).placed place := by
  obtain ⟨z, d, a, o⟩ := s
  unfold noteHeader
  rw [h]
  cases o with
  | none => cases classHeader? t <;> simp only [placed, OpenClass.placed] <;> split_ifs <;> rfl
  | waiting name start => simp [placed, OpenClass.placed]
  | opened name start bodyStart => simp [placed, OpenClass.placed]

theorem placed_openBrace (h : place (i + 1) = place i + 1) :
    (s.placed place).openBrace (place i) = (s.openBrace i).placed place := by
  obtain ⟨z, d, a, o⟩ := s
  cases d <;> cases o <;> simp [openBrace, placed, OpenClass.placed, h]

theorem placed_closeBrace :
    (s.placed place).closeBrace (place i) =
      ((s.closeBrace i).1.placed place, (s.closeBrace i).2.map (ClassSpan.placed place)) := by
  obtain ⟨z, d, a, o⟩ := s
  rcases d with _ | _ | d <;> cases o <;> rfl

theorem placed_advance (c : Char) {rest rest' : Text}
    (h : s.zone.after c rest' = s.zone.after c rest) :
    (s.placed place).advance c rest' = (s.advance c rest).placed place := by
  unfold advance placed
  rw [h]

end ScanState

end Placed

/-! ## Scans through the bytes -/

theorem Zone.after_octets (z : Zone) (c : Char) (rest : Text) :
    z.after c rest.octets = z.after c rest := by
  have hslash := Text.head?_octets (d := '/') (by decide) rest
  have hstar := Text.head?_octets (d := '*') (by decide) rest
  unfold Zone.after
  simp only [hslash, hstar]

/-- **A scan through the bytes** of what is left of a code. -/
theorem scanFrom_octets {t : Text} (rest : Text) : ∀ {s : ScanState} {i : Nat}, t.drop i = rest →
    s.zone.QuotesAscii →
      scanFrom (s.placed t.offset) (t.offset i) rest.octets =
        placedClasses t.offset (scanFrom s i rest) := by
  induction rest with
  | nil =>
    intro s i _ _
    obtain ⟨z, d, a, o⟩ := s
    cases o <;> rfl
  | cons c r ih =>
    intro s i ht hs
    obtain ⟨hget, hr, _⟩ := Text.of_drop_eq_cons ht
    have hplace := Text.offset_succ hget
    cases hc : isHigh c with
    | true =>
      obtain ⟨d, ds, hoctets, hhigh, hlength⟩ := Text.octets_cons_of_isHigh hc r
      have hbytes := passes_high (s := s.placed t.offset) hs hhigh (t.offset i) (Text.octets r)
      rw [hoctets, hbytes, hlength, ← hplace, scanFrom_of_isHigh hs hc]
      exact ih (s := s.behindHigh) hr hs.behindHigh
    | false =>
      rw [Text.utf8Size_of_not_isHigh hc] at hplace
      have hheader : classHeader? (c :: Text.octets r) = classHeader? (c :: r) := by
        rw [← Text.octets_cons_of_not_isHigh hc, classHeader?_octets]
      have hzone := s.zone_noteHeader i (c :: r)
      rw [Text.octets_cons_of_not_isHigh hc, scanFrom, scanFrom, s.placed_noteHeader i hheader]
      generalize s.noteHeader i (c :: r) = s' at hzone ⊢
      have hnext : ∀ x : ScanState, x.zone = s'.zone →
          scanFrom ((x.placed t.offset).advance c (Text.octets r)) (t.offset i + 1)
              (Text.octets r) =
            placedClasses t.offset (scanFrom (x.advance c r) (i + 1) r) := by
        intro x hx
        have hquotes : x.zone.QuotesAscii := by
          rw [hx, hzone]
          exact hs
        rw [x.placed_advance c (Zone.after_octets _ _ _), ← hplace]
        exact ih hr (hquotes.after c r)
      dsimp only
      rw [ScanState.zone_placed, ScanState.depth_placed, s'.placed_openBrace i hplace,
        s'.placed_closeBrace]
      split_ifs
      · exact hnext _ (s'.zone_openBrace i)
      · rfl
      · rw [hnext _ (s'.zone_closeBrace i)]
        cases scanFrom ((s'.closeBrace i).1.advance c r) (i + 1) r with
        | error f => rfl
        | ok found => cases (s'.closeBrace i).2 <;> rfl
      · exact hnext _ rfl

/-- **The classes of a code are found byte by byte**, each position at its offset. -/
theorem scanFrom_octets_eq (t : Text) :
    scanFrom {} 0 t.octets =
      (scanClasses t).map (fun spans => spans.map (ClassSpan.placed t.offset)) := by
  have h := scanFrom_octets t (s := {}) (i := 0) List.drop_zero trivial
  rw [Text.offset_zero] at h
  unfold scanClasses
  refine Eq.trans h ?_
  cases scanFrom {} 0 t with
  | ok spans => rfl
  | error fault => cases fault <;> rfl

end SchemaTypes
