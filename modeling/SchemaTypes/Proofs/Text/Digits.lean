import SchemaTypes.Proofs.Text.Names
import SchemaTypes.Proofs.Text.Trim

/-!
# Digits at the start of names

A name is kept from a digit of ASCII at its start. Letters and digits of all scripts get into
names, and a digit of another script stays where it is: whether a name starts with one is told by
the first letter or number of the text that the name is made from.

* `Text.isDecimal`: the decimal digits of all scripts.
* `Text.uppercase_of_isDecimal`, `Text.exists_uppercase_eq`: capitals of digits and of letters.
* `Text.flatten_words`: the words of a text are its letters and numbers.
* `leadsForeign`: the first letter or number of a text is a digit of another script.
* `startsWithDecimal_typeNameOf`, `startsWithDecimal_rootName`: the names of types.
* **`startsWithDecimal_memberName`**: the names of members.
-/

namespace SchemaTypes

namespace Text

/-! ## Ranges -/

/-- The ranges of the general category Nd, as of version 17.0 of the character database. -/
def decimalRanges : List CharRange := ranges [
    (0x30, 0x39), (0x660, 0x669), (0x6F0, 0x6F9), (0x7C0, 0x7C9), (0x966, 0x96F), (0x9E6, 0x9EF),
    (0xA66, 0xA6F), (0xAE6, 0xAEF), (0xB66, 0xB6F), (0xBE6, 0xBEF), (0xC66, 0xC6F), (0xCE6, 0xCEF),
    (0xD66, 0xD6F), (0xDE6, 0xDEF), (0xE50, 0xE59), (0xED0, 0xED9), (0xF20, 0xF29),
    (0x1040, 0x1049), (0x1090, 0x1099), (0x17E0, 0x17E9), (0x1810, 0x1819), (0x1946, 0x194F),
    (0x19D0, 0x19D9), (0x1A80, 0x1A89), (0x1A90, 0x1A99), (0x1B50, 0x1B59), (0x1BB0, 0x1BB9),
    (0x1C40, 0x1C49), (0x1C50, 0x1C59), (0xA620, 0xA629), (0xA8D0, 0xA8D9), (0xA900, 0xA909),
    (0xA9D0, 0xA9D9), (0xA9F0, 0xA9F9), (0xAA50, 0xAA59), (0xABF0, 0xABF9), (0xFF10, 0xFF19),
    (0x104A0, 0x104A9), (0x10D30, 0x10D39), (0x10D40, 0x10D49), (0x11066, 0x1106F),
    (0x110F0, 0x110F9), (0x11136, 0x1113F), (0x111D0, 0x111D9), (0x112F0, 0x112F9),
    (0x11450, 0x11459), (0x114D0, 0x114D9), (0x11650, 0x11659), (0x116C0, 0x116C9),
    (0x116D0, 0x116E3), (0x11730, 0x11739), (0x118E0, 0x118E9), (0x11950, 0x11959),
    (0x11BF0, 0x11BF9), (0x11C50, 0x11C59), (0x11D50, 0x11D59), (0x11DA0, 0x11DA9),
    (0x11DE0, 0x11DE9), (0x11F50, 0x11F59), (0x16130, 0x16139), (0x16A60, 0x16A69),
    (0x16AC0, 0x16AC9), (0x16B50, 0x16B59), (0x16D70, 0x16D79), (0x1CCF0, 0x1CCF9),
    (0x1D7CE, 0x1D7FF), (0x1E140, 0x1E149), (0x1E2F0, 0x1E2F9), (0x1E4F0, 0x1E4F9),
    (0x1E5F1, 0x1E5FA), (0x1E950, 0x1E959), (0x1FBF0, 0x1FBF9)]

/-- Is the character a decimal digit of any script? -/
def isDecimal (c : Char) : Bool :=
  inRanges decimalRanges c

/-- No range of the one list meets a range of the other. -/
def apart (rs rs' : List CharRange) : Bool :=
  rs.all fun r => rs'.all fun r' => r.last < r'.first || r'.last < r.first

theorem not_contains_of_apart {rs rs' : List CharRange} (h : apart rs rs' = true) {r : CharRange}
    (hr : r ∈ rs) {n : Nat} (hfirst : r.first ≤ n) (hlast : n ≤ r.last) :
    rs'.any (·.contains n) = false := by
  rw [List.any_eq_false]
  intro r' hr' hcontains
  have hapart := List.all_eq_true.mp (List.all_eq_true.mp h r hr) r' hr'
  simp only [Bool.or_eq_true, decide_eq_true_eq] at hapart
  simp only [CharRange.contains, Bool.and_eq_true, decide_eq_true_eq] at hcontains
  omega

/-- **Properties with ranges apart** exclude each other. -/
theorem inRanges_eq_false_of_apart {rs rs' : List CharRange} (h : apart rs rs' = true) {c : Char}
    (hc : inRanges rs c = true) : inRanges rs' c = false := by
  obtain ⟨r, hr, hcontains⟩ := List.any_eq_true.mp hc
  simp only [CharRange.contains, Bool.and_eq_true, decide_eq_true_eq] at hcontains
  exact not_contains_of_apart h hr hcontains.1.1 hcontains.1.2

theorem isAlphanumeric_eq_false_of_isBlank {c : Char} (h : isBlank c = true) :
    isAlphanumeric c = false := by
  unfold isAlphanumeric
  split
  · next hascii =>
    exact forall_ascii (P := fun c => isBlank c = true → c.isAlphanum = false) (by decide) hascii h
  · exact inRanges_eq_false_of_apart (by decide +kernel) h

/-! ## Capitals -/

/-- The ranges of the images of case runs. -/
def imageRanges (rs : List CaseRun) : List CharRange :=
  rs.map fun r => { first := r.image, last := r.image + (r.range.last - r.range.first) }

/-- A list of code points starts with one that is no digit. -/
def startsOther : List Nat → Bool
  | [] => false
  | n :: _ => !isDecimal (Char.ofNat n)

theorem isDecimal_ofNat {n : Nat} (h : decimalRanges.any (·.contains n) = false) :
    isDecimal (Char.ofNat n) = false := by
  by_cases hv : n.isValidChar
  · rw [isDecimal, inRanges, toNat_ofNat hv]
    exact h
  · unfold Char.ofNat
    rw [dif_neg hv]
    decide

theorem caseImage_of_isDecimal {texts : List (Nat × List Nat)} {rs : List CaseRun}
    (ht : texts.all fun e => !decimalRanges.any (·.contains e.1))
    (hr : apart (rs.map CaseRun.range) decimalRanges = true) {c : Char} (h : isDecimal c = true) :
    caseImage texts rs c = [c] := by
  rcases caseImage_cases texts rs c with ⟨image, hmem, -⟩ | ⟨r, hmem, hfirst, hlast, -⟩ | heq
  · have hnot : isDecimal c = false := (Bool.not_eq_true' _).mp (List.all_eq_true.mp ht _ hmem)
    rw [h] at hnot
    cases hnot
  · have hnot : isDecimal c = false :=
      not_contains_of_apart hr (List.mem_map_of_mem hmem) hfirst hlast
    rw [h] at hnot
    cases hnot
  · exact heq

theorem exists_caseImage_eq {texts : List (Nat × List Nat)} {rs : List CaseRun}
    (ht : texts.all fun e => startsOther e.2)
    (hr : apart (imageRanges rs) decimalRanges = true) {c : Char} (h : isDecimal c = false) :
    ∃ d r, caseImage texts rs c = d :: r ∧ isDecimal d = false := by
  rcases caseImage_cases texts rs c with
    ⟨image, hmem, heq⟩ | ⟨r, hmem, hfirst, hlast, heq⟩ | heq <;> rw [heq]
  · have hstarts := List.all_eq_true.mp ht _ hmem
    cases image with
    | nil => cases hstarts
    | cons n image => exact ⟨_, _, rfl, by simpa [startsOther] using hstarts⟩
  · refine ⟨_, _, rfl, isDecimal_ofNat (not_contains_of_apart hr (List.mem_map_of_mem hmem) ?_ ?_)⟩
    · exact Nat.le_add_right _ _
    · show r.image + _ ≤ r.image + _
      omega
  · exact ⟨c, [], rfl, h⟩

/-- **A digit is its own capital.** -/
theorem uppercase_of_isDecimal {c : Char} (h : isDecimal c = true) : uppercase c = [c] := by
  unfold uppercase
  split
  · next hascii =>
    have hupper := forall_ascii (P := fun c => isDecimal c = true → c.toUpper = c)
      (by decide +kernel) hascii h
    rw [hupper]
  · exact caseImage_of_isDecimal (by decide +kernel) (by decide +kernel) h

/-- **The capital of anything else** starts with no digit. -/
theorem exists_uppercase_eq {c : Char} (h : isDecimal c = false) :
    ∃ d r, uppercase c = d :: r ∧ isDecimal d = false := by
  unfold uppercase
  split
  · next hascii =>
    have hupper := forall_ascii (P := fun c => isDecimal c = false → isDecimal c.toUpper = false)
      (by decide +kernel) hascii h
    exact ⟨_, _, rfl, hupper⟩
  · exact exists_caseImage_eq (by decide +kernel) (by decide +kernel) h

/-! ## Words -/

theorem flatten_runs (p : Char → Bool) (t : Text) : (runs p t).flatten = t.filter p := by
  induction t with
  | nil => rfl
  | cons c t ih =>
    rw [runs]
    by_cases hc : p c = true
    · rw [if_pos hc, List.filter_cons_of_pos hc, ← ih]
      cases runs p t <;> rfl
    · rw [if_neg hc, List.filter_cons_of_neg hc, ← ih]
      rfl

theorem flatten_humpsFrom (last : LastCase) (word run : Text) (h : run ≠ []) :
    (humpsFrom last word run).flatten = word.reverse ++ run := by
  fun_induction humpsFrom last word run with
  | case1 => exact absurd rfl h
  | case2 last word c => simp
  | case3 last word c d r _ ih => simp [ih]
  | case4 last word c d r _ _ ih => simp [ih]
  | case5 last word c d r _ _ ih => simp [ih]

/-- **The words of a text** are its letters and numbers. -/
theorem flatten_words (t : Text) : (words t).flatten = t.filter isAlphanumeric := by
  have hhumps : ∀ run : Text, (humps run).flatten = run := by
    intro run
    cases run with
    | nil => rfl
    | cons c r => exact flatten_humpsFrom .none [] (c :: r) (List.cons_ne_nil _ _)
  have hwords : ∀ rs : List Text, (rs.flatMap humps).flatten = rs.flatten := by
    intro rs
    induction rs with
    | nil => rfl
    | cons run rs ih =>
      rw [List.flatMap_cons, List.flatten_append, hhumps, ih, List.flatten_cons]
  rw [words, hwords, flatten_runs]

theorem flatMap_capitalize (ws : List Text) :
    match ws.flatten with
    | [] => ws.flatMap capitalize = []
    | c :: _ => ∃ r, ws.flatMap capitalize = uppercase c ++ r := by
  induction ws with
  | nil => rfl
  | cons w ws ih =>
    cases w with
    | nil => exact ih
    | cons c r =>
      refine ⟨lowercaseTail r ++ ws.flatMap capitalize, ?_⟩
      rw [List.flatMap_cons, capitalize, List.append_assoc]

theorem upperCamel_of_find?_eq_none {t : Text} (h : t.find? isAlphanumeric = none) :
    upperCamel t = [] := by
  have hcapital := flatMap_capitalize (words t)
  have hwords : (words t).flatten = [] := by
    rw [flatten_words, List.filter_eq_nil_iff]
    exact List.find?_eq_none.mp h
  rw [hwords] at hcapital
  exact hcapital

theorem exists_upperCamel_eq {t : Text} {c : Char} (h : t.find? isAlphanumeric = some c) :
    ∃ r, upperCamel t = uppercase c ++ r := by
  have hcapital := flatMap_capitalize (words t)
  have hhead : (words t).flatten.head? = some c := by
    rw [flatten_words, List.head?_filter, h]
  cases hwords : (words t).flatten with
  | nil =>
    rw [hwords] at hhead
    cases hhead
  | cons d r =>
    rw [hwords] at hcapital hhead
    obtain rfl := Option.some.inj hhead
    exact hcapital

theorem find?_trim (t : Text) : (trim t).find? isAlphanumeric = t.find? isAlphanumeric := by
  have hblank : ∀ x : Text, (∀ c ∈ x, isBlank c = true) → x.find? isAlphanumeric = none := by
    intro x hx
    rw [List.find?_eq_none]
    intro c hc
    rw [isAlphanumeric_eq_false_of_isBlank (hx c hc)]
    exact Bool.false_ne_true
  have hstart : (trimStart t).find? isAlphanumeric = t.find? isAlphanumeric := by
    conv_rhs => rw [← takeWhile_append_trimStart t, List.find?_append]
    rw [hblank _ fun c hc => List.mem_takeWhile_imp hc, Option.none_or]
  have hend : ∀ x : Text, (trimEnd x).find? isAlphanumeric = x.find? isAlphanumeric := by
    intro x
    have hsplit : x = trimEnd x ++ (x.reverse.takeWhile isBlank).reverse := by
      rw [trimEnd, ← List.reverse_append, List.takeWhile_append_dropWhile, List.reverse_reverse]
    conv_rhs => rw [hsplit, List.find?_append]
    rw [hblank (x.reverse.takeWhile isBlank).reverse, Option.or_none]
    intro c hc
    exact List.mem_takeWhile_imp (List.mem_reverse.mp hc)
  rw [trim, hend, hstart]

end Text

/-! ## Digits at the start -/

/-- Does the text begin with a decimal digit of any script? -/
def startsWithDecimal (t : Text) : Bool :=
  t.head?.any Text.isDecimal

/-- Is the first letter or number of the text a decimal digit of another script than ASCII? -/
def leadsForeign (t : Text) : Bool :=
  (t.find? Text.isAlphanumeric).any fun c => Text.isDecimal c && !Text.isAsciiDigit c

theorem startsWithDecimal_append {x : Text} (h : x ≠ []) (y : Text) :
    startsWithDecimal (x ++ y) = startsWithDecimal x := by
  unfold startsWithDecimal
  rw [List.head?_append_of_ne_nil _ h]

theorem startsWithDigit_append {x : Text} (h : x ≠ []) (y : Text) :
    startsWithDigit (x ++ y) = startsWithDigit x := by
  cases x with
  | nil => exact absurd rfl h
  | cons c x => rfl

theorem leadsForeign_trim (t : Text) : leadsForeign (Text.trim t) = leadsForeign t := by
  unfold leadsForeign
  rw [Text.find?_trim]

theorem Text.isDecimal_of_isAsciiDigit {c : Char} (h : Text.isAsciiDigit c = true) :
    Text.isDecimal c = true := by
  have hascii : c.toNat < 0x80 := by
    have hbounds : c.val ≥ 48 ∧ c.val ≤ 57 := by
      simpa [Text.isAsciiDigit, Char.isDigit] using h
    have hle : c.val.toNat ≤ 57 := hbounds.2
    show c.val.toNat < 0x80
    omega
  exact forall_ascii (P := fun c => Text.isAsciiDigit c = true → Text.isDecimal c = true)
    (by decide +kernel) hascii h

/-- **What capitalized words begin with** is a digit exactly if the first letter or number is. -/
theorem upperCamel_cases (t : Text) :
    (t.find? Text.isAlphanumeric = none ∧ Text.upperCamel t = []) ∨
      ∃ c d r, t.find? Text.isAlphanumeric = some c ∧ Text.upperCamel t = d :: r ∧
        Text.isDecimal d = Text.isDecimal c ∧ Text.isAsciiDigit d = Text.isAsciiDigit c := by
  cases hfind : t.find? Text.isAlphanumeric with
  | none => exact .inl ⟨rfl, Text.upperCamel_of_find?_eq_none hfind⟩
  | some c =>
    obtain ⟨r, hr⟩ := Text.exists_upperCamel_eq hfind
    right
    by_cases hc : Text.isDecimal c = true
    · rw [Text.uppercase_of_isDecimal hc] at hr
      exact ⟨c, c, r, rfl, hr, rfl, rfl⟩
    · have hc' : Text.isDecimal c = false := by simpa using hc
      obtain ⟨d, r', hd, hdecimal⟩ := Text.exists_uppercase_eq hc'
      rw [hd] at hr
      have hascii : ∀ e, Text.isDecimal e = false → Text.isAsciiDigit e = false := by
        intro e he
        by_contra hdigit
        rw [Text.isDecimal_of_isAsciiDigit (by simpa using hdigit)] at he
        cases he
      refine ⟨c, d, r' ++ r, rfl, hr, ?_, ?_⟩
      · rw [hdecimal, hc']
      · rw [hascii d hdecimal, hascii c hc']

/-! ## Names of types -/

theorem startsWithDecimal_typeName (t : Text) :
    startsWithDecimal (typeName t) = leadsForeign t := by
  unfold typeName leadsForeign
  rcases upperCamel_cases t with ⟨hfind, hnil⟩ | ⟨c, d, r, hfind, hcons, hdecimal, hascii⟩
  · rw [hfind, hnil]
    rfl
  · rw [hfind, hcons]
    have hletter : Text.isDecimal 'T' = false := by decide +kernel
    by_cases hd : Text.isAsciiDigit d = true
    · simp [startsWithDigit, startsWithDecimal, hd, ← hascii, hletter]
    · simp [startsWithDigit, startsWithDecimal, hd, ← hascii, hdecimal]

theorem typeName_eq_nil_iff {t : Text} :
    typeName t = [] ↔ t.find? Text.isAlphanumeric = none := by
  unfold typeName
  rcases upperCamel_cases t with ⟨hfind, hnil⟩ | ⟨c, d, r, hfind, hcons, -, -⟩
  · rw [hfind, hnil]
    exact ⟨fun _ => rfl, fun _ => rfl⟩
  · rw [hfind, hcons]
    by_cases hd : startsWithDigit (d :: r) = true <;> simp [hd]

/-- The text that the name of a type is made from: the title if there is a letter or number in it,
or else the key. -/
def typeSource (key : Text) (title : Option Text) : Text :=
  (title.filter fun t => t.any Text.isAlphanumeric).getD key

theorem typeName?_eq (t : Text) :
    typeName? t = if t.any Text.isAlphanumeric then some (typeName (Text.trim t)) else none := by
  have hiff : typeName (Text.trim t) = [] ↔ ¬t.any Text.isAlphanumeric = true := by
    rw [typeName_eq_nil_iff, Text.find?_trim, List.find?_eq_none, List.any_eq_true]
    push Not
    rfl
  unfold typeName?
  by_cases h : t.any Text.isAlphanumeric = true
  · rw [if_pos h]
    split
    · next hnil => exact absurd h (hiff.mp hnil)
    · rfl
  · rw [if_neg h, hiff.mpr h]

theorem leadsForeign_of_not_any {t : Text} (h : ¬t.any Text.isAlphanumeric = true) :
    leadsForeign t = false := by
  have hnone : t.find? Text.isAlphanumeric = none := by
    rw [List.find?_eq_none]
    intro c hc hletter
    exact h (List.any_eq_true.mpr ⟨c, hc, hletter⟩)
  rw [leadsForeign, hnone]
  rfl

theorem startsWithDecimal_getD_typeName? (t : Text) {name : Text}
    (hname : startsWithDecimal name = false) :
    startsWithDecimal ((typeName? t).getD name) = leadsForeign t := by
  rw [typeName?_eq]
  split
  · rw [Option.getD_some, startsWithDecimal_typeName, leadsForeign_trim]
  · next h => rw [Option.getD_none, hname, leadsForeign_of_not_any h]

/-- **The name of a type under a key.** -/
theorem startsWithDecimal_typeNameOf (key : Text) (title : Option Text) :
    startsWithDecimal (typeNameOf key title) = leadsForeign (typeSource key title) := by
  have hkey : startsWithDecimal ((typeName? key).getD anonymousName) = leadsForeign key := by
    apply startsWithDecimal_getD_typeName?
    rw [anonymousName, Text.ofString_eq]
    decide +kernel
  unfold typeNameOf typeSource
  cases title with
  | none => exact hkey
  | some t =>
    rw [Option.bind_some, Option.filter_some]
    by_cases h : t.any Text.isAlphanumeric = true
    · rw [typeName?_eq, if_pos h, if_pos h]
      exact (startsWithDecimal_typeName (Text.trim t)).trans (leadsForeign_trim t)
    · rw [typeName?_eq t, if_neg h, if_neg h]
      exact hkey

/-- **The name of a root type.** -/
theorem startsWithDecimal_rootName (title : Option Text) :
    startsWithDecimal (rootName title) = title.any leadsForeign := by
  have hroot : startsWithDecimal defaultRootName = false := by
    rw [defaultRootName, Text.ofString_eq]
    decide +kernel
  unfold rootName
  cases title with
  | none => exact hroot
  | some t => exact startsWithDecimal_getD_typeName? t hroot

/-! ## Names of members -/

/-- **The name of a member.** -/
theorem startsWithDecimal_memberName (value : Text) :
    startsWithDecimal (memberName value) = leadsForeign value := by
  have hletter : Text.isDecimal 'E' = false := by decide +kernel
  unfold memberName leadsForeign
  rcases upperCamel_cases value with ⟨hfind, hnil⟩ | ⟨c, d, r, hfind, hcons, hdecimal, hascii⟩
  · rw [hfind, hnil]
    exact hletter
  · rw [hfind, hcons]
    by_cases hd : Text.isAsciiDigit d = true
    · simp [startsWithDigit, startsWithDecimal, hd, ← hascii, hletter]
    · simp [startsWithDigit, startsWithDecimal, hd, ← hascii, hdecimal]

theorem startsWithDigit_memberName (value : Text) : startsWithDigit (memberName value) = false := by
  unfold memberName
  dsimp only
  split
  · rfl
  · next h =>
    rw [Bool.or_eq_true, not_or] at h
    simpa using h.2

set_option maxRecDepth 100000 in
/-- A digit of another script stays at the start, one of ASCII does not. -/
example : ["٣d".toList, "3٣".toList, "d٣".toList].map (fun t => startsWithDecimal (typeName t)) =
    [true, false, false] := by
  cbv

end SchemaTypes
