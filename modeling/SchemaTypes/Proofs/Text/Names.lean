import SchemaTypes.Declaration.Enumeration
import SchemaTypes.Extension.ClassHeader

/-!
# Characters of names

Names are made of letters and digits. Beyond ASCII these are whatever the case mappings give.

* `NameText`: the ASCII characters of the text can stand in the name of a class.
* `forall_mem_upperCamel`: capitalized words have the characters that the case mappings give.
* `nameText_upperCamel`, `underscore_notMem_upperCamel`: so they are fit for names, and no
  underscore is among them.
* `TypeName`: what is known of every type name.
* **`typeName_typeNameOf`**, **`typeName_rootName`**, `nameText_enumMembers`: the names that are
  made.
* `isIdentifierPart_of_mem`: the characters of keys that are written without quotes.
-/

namespace SchemaTypes

/-- The ASCII characters of the text can stand in the name of a class. -/
def NameText (t : Text) : Prop :=
  ∀ c ∈ t, c.toNat < 0x80 → isNamePart c = true

instance (t : Text) : Decidable (NameText t) :=
  decidable_of_iff (t.all fun c => decide (c.toNat < 0x80 → isNamePart c = true)) <| by
    simp only [List.all_eq_true, decide_eq_true_eq, NameText]

namespace NameText

theorem append {s t : Text} (hs : NameText s) (ht : NameText t) : NameText (s ++ t) := by
  intro c hc
  rcases List.mem_append.mp hc with h | h
  · exact hs c h
  · exact ht c h

theorem cons {c : Char} {t : Text} (hc : isNamePart c = true) (ht : NameText t) :
    NameText (c :: t) := by
  intro d hd hlt
  cases List.mem_cons.mp hd with
  | inl h => exact h ▸ hc
  | inr h => exact ht d h hlt

end NameText

/-! ## Case mappings -/

theorem toNat_ofNat {n : Nat} (h : n.isValidChar) : (Char.ofNat n).toNat = n := by
  unfold Char.ofNat
  rw [dif_pos h]
  rfl

theorem forall_ascii {P : Char → Prop} (h : ∀ n < 0x80, P (Char.ofNat n)) {c : Char}
    (hc : c.toNat < 0x80) : P c := by
  have hp := h c.toNat hc
  rwa [Char.ofNat_toNat] at hp

/-- A code point beyond ASCII, or that of a letter. -/
def isImage (n : Nat) : Bool :=
  if n < 0x80 then isNamePart (Char.ofNat n) else n < 0xD800 || (0xDFFF < n && n < 0x110000)

theorem nameText_ofNat {n : Nat} (h : isImage n = true) : NameText [Char.ofNat n] := by
  intro c hc hlt
  obtain rfl := List.mem_singleton.mp hc
  by_cases hn : n < 0x80
  · rwa [isImage, if_pos hn] at h
  · rw [isImage, if_neg hn] at h
    have hv : n.isValidChar := by
      simp only [Bool.or_eq_true, Bool.and_eq_true, decide_eq_true_eq] at h
      exact h
    rw [toNat_ofNat hv] at hlt
    exact absurd hlt hn

/-- The run is one of ASCII, has one image, or has all images on one side of the surrogates. -/
def caseRunFits (r : Text.CaseRun) : Bool :=
  if r.range.last < 0x80 then true
  else if r.range.first = r.range.last then isImage r.image
  else 0x80 ≤ r.image &&
    (r.image + (r.range.last - r.range.first) < 0xD800 ||
      (0xDFFF < r.image && r.image + (r.range.last - r.range.first) < 0x110000))

theorem isImage_of_caseRunFits {r : Text.CaseRun} (h : caseRunFits r = true) {n : Nat}
    (hn : 0x80 ≤ n) (hfirst : r.range.first ≤ n) (hlast : n ≤ r.range.last) :
    isImage (r.image + (n - r.range.first)) = true := by
  unfold caseRunFits at h
  rw [if_neg (by omega)] at h
  split at h
  · next he =>
    obtain rfl : n = r.range.first := by omega
    rwa [Nat.sub_self, Nat.add_zero]
  · simp only [Bool.and_eq_true, Bool.or_eq_true, decide_eq_true_eq] at h
    rw [isImage, if_neg (by omega)]
    simp only [Bool.and_eq_true, Bool.or_eq_true, decide_eq_true_eq]
    omega

/-- **The image of a character**: the text that a table has for it, the code point that a run has
for it, or the character itself. -/
theorem caseImage_cases (texts : List (Nat × List Nat)) (rs : List Text.CaseRun) (c : Char) :
    (∃ image, (c.toNat, image) ∈ texts ∧
        Text.caseImage texts rs c = image.map Char.ofNat) ∨
      (∃ r ∈ rs, r.range.first ≤ c.toNat ∧ c.toNat ≤ r.range.last ∧
        Text.caseImage texts rs c = [Char.ofNat (r.image + (c.toNat - r.range.first))]) ∨
      Text.caseImage texts rs c = [c] := by
  unfold Text.caseImage
  split
  · next image he =>
    obtain ⟨_, _, e, _⟩ := List.lookup_eq_some_iff.mp he
    refine .inl ⟨image, ?_, rfl⟩
    rw [e]
    exact List.mem_append_right _ List.mem_cons_self
  · split
    · next n he =>
      obtain ⟨r, hmem, hn⟩ := List.exists_of_findSome?_eq_some he
      unfold Text.CaseRun.image? Text.CharRange.contains at hn
      split at hn
      · next hin =>
        simp only [Bool.and_eq_true, decide_eq_true_eq] at hin
        obtain rfl := Option.some.inj hn
        exact .inr (.inl ⟨r, hmem, hin.1.1, hin.1.2, rfl⟩)
      · cases hn
    · exact .inr (.inr rfl)

/-- **A case mapping whose tables fit** leads from names to names. -/
theorem nameText_caseImage {texts : List (Nat × List Nat)} {rs : List Text.CaseRun}
    (ht : texts.all fun e => e.2.all isImage) (hr : rs.all caseRunFits) {c : Char}
    (hc : 0x80 ≤ c.toNat) : NameText (Text.caseImage texts rs c) := by
  rcases caseImage_cases texts rs c with
    ⟨image, hmem, heq⟩ | ⟨r, hmem, hfirst, hlast, heq⟩ | heq <;> rw [heq]
  · have himage := List.all_eq_true.mp ht _ hmem
    intro d hd
    obtain ⟨n, hn, rfl⟩ := List.mem_map.mp hd
    exact nameText_ofNat (List.all_eq_true.mp himage n hn) _ (List.mem_singleton_self _)
  · exact nameText_ofNat
      (isImage_of_caseRunFits (List.all_eq_true.mp hr r hmem) hc hfirst hlast)
  · intro d hd hlt
    obtain rfl := List.mem_singleton.mp hd
    omega

theorem isNamePart_case {c : Char} (h : c.isAlphanum = true) (hc : c.toNat < 0x80) :
    isNamePart c.toUpper = true ∧ isNamePart c.toLower = true :=
  forall_ascii (P := fun c => c.isAlphanum = true →
    isNamePart c.toUpper = true ∧ isNamePart c.toLower = true) (by decide) hc h

theorem nameText_uppercase {c : Char} (h : Text.isAlphanumeric c = true) :
    NameText (Text.uppercase c) := by
  unfold Text.uppercase
  split
  · next hc =>
    rw [Text.isAlphanumeric, if_pos hc] at h
    exact .cons (isNamePart_case h hc).1 (List.forall_mem_nil _)
  · next hc =>
    exact nameText_caseImage (by decide +kernel) (by decide +kernel) (Nat.le_of_not_lt hc)

theorem nameText_lowercase {c : Char} (h : Text.isAlphanumeric c = true) :
    NameText (Text.lowercase c) := by
  unfold Text.lowercase
  split
  · next hc =>
    rw [Text.isAlphanumeric, if_pos hc] at h
    exact .cons (isNamePart_case h hc).2 (List.forall_mem_nil _)
  · next hc =>
    exact nameText_caseImage (by decide +kernel) (by decide +kernel) (Nat.le_of_not_lt hc)

/-! ## Words -/

theorem of_mem_runs {p : Char → Bool} {t w : Text} (h : w ∈ Text.runs p t) :
    ∀ c ∈ w, p c = true := by
  induction t generalizing w with
  | nil => simp [List.mem_singleton.mp h]
  | cons c t ih =>
    rw [Text.runs] at h
    split at h
    · next hp =>
      split at h
      · simp [List.mem_singleton.mp h, hp]
      · next run rest e =>
        rw [e] at ih
        rcases List.mem_cons.mp h with rfl | h
        · intro d hd
          rcases List.mem_cons.mp hd with rfl | hd
          · exact hp
          · exact ih List.mem_cons_self d hd
        · exact ih (List.mem_cons_of_mem _ h)
    · rcases List.mem_cons.mp h with rfl | h
      · simp
      · exact ih h

theorem of_mem_humpsFrom {last : Text.LastCase} {word run w : Text}
    (h : w ∈ Text.humpsFrom last word run) : ∀ c ∈ w, c ∈ word ∨ c ∈ run := by
  fun_induction Text.humpsFrom last word run with
  | case1 => simp at h
  | case2 last word c =>
    rw [List.mem_singleton.mp h]
    intro d hd
    rcases List.mem_cons.mp (List.mem_reverse.mp hd) with rfl | hd
    · exact .inr List.mem_cons_self
    · exact .inl hd
  | case3 last word c d r _ ih =>
    rcases List.mem_cons.mp h with rfl | h
    · intro e he
      rcases List.mem_cons.mp (List.mem_reverse.mp he) with rfl | he
      · exact .inr List.mem_cons_self
      · exact .inl he
    · intro e he
      rcases ih h e he with he | he
      · simp at he
      · exact .inr (List.mem_cons_of_mem _ he)
  | case4 last word c d r _ _ ih =>
    rcases List.mem_cons.mp h with rfl | h
    · exact fun e he => .inl (List.mem_reverse.mp he)
    · intro e he
      rcases ih h e he with he | he
      · exact .inr (List.mem_singleton.mp he ▸ List.mem_cons_self)
      · exact .inr (List.mem_cons_of_mem _ he)
  | case5 last word c d r _ _ ih =>
    intro e he
    rcases ih h e he with he | he
    · rcases List.mem_cons.mp he with rfl | he
      · exact .inr List.mem_cons_self
      · exact .inl he
    · exact .inr (List.mem_cons_of_mem _ he)

theorem isAlphanumeric_of_mem_words {t w : Text} (h : w ∈ Text.words t) :
    ∀ c ∈ w, Text.isAlphanumeric c = true := by
  obtain ⟨run, hrun, hw⟩ := List.mem_flatMap.mp h
  intro c hc
  rcases of_mem_humpsFrom hw c hc with h | h
  · simp at h
  · exact of_mem_runs hrun c h

section CharactersOfWords

variable {q : Char → Prop}

theorem forall_mem_lowercaseTail
    (hlower : ∀ c, Text.isAlphanumeric c = true → ∀ d ∈ Text.lowercase c, q d) (hsigma : q 'ς')
    {t : Text} (h : ∀ c ∈ t, Text.isAlphanumeric c = true) : ∀ d ∈ Text.lowercaseTail t, q d := by
  fun_induction Text.lowercaseTail t with
  | case1 => exact List.forall_mem_nil _
  | case2 => exact fun d hd => List.mem_singleton.mp hd ▸ hsigma
  | case3 c _ => exact hlower c (h c List.mem_cons_self)
  | case4 c d r ih =>
    intro e he
    rcases List.mem_append.mp he with he | he
    · exact hlower c (h c List.mem_cons_self) e he
    · exact ih (fun e he => h e (List.mem_cons_of_mem _ he)) e he

/-- **Capitalized words** have only characters that the case mappings give. -/
theorem forall_mem_upperCamel
    (hupper : ∀ c, Text.isAlphanumeric c = true → ∀ d ∈ Text.uppercase c, q d)
    (hlower : ∀ c, Text.isAlphanumeric c = true → ∀ d ∈ Text.lowercase c, q d) (hsigma : q 'ς')
    (t : Text) : ∀ d ∈ Text.upperCamel t, q d := by
  intro d hd
  obtain ⟨w, hw, hd⟩ := List.mem_flatMap.mp hd
  have h := isAlphanumeric_of_mem_words hw
  cases w with
  | nil => exact absurd hd List.not_mem_nil
  | cons c r =>
    rcases List.mem_append.mp hd with hd | hd
    · exact hupper c (h c List.mem_cons_self) d hd
    · exact forall_mem_lowercaseTail hlower hsigma
        (fun e he => h e (List.mem_cons_of_mem _ he)) d hd

end CharactersOfWords

theorem nameText_upperCamel (t : Text) : NameText (Text.upperCamel t) :=
  forall_mem_upperCamel (fun _ hc => nameText_uppercase hc) (fun _ hc => nameText_lowercase hc)
    (by decide) t

/-! ## Underscores -/

/-- The code point is not among the images of the run. -/
def avoids (n : Nat) (r : Text.CaseRun) : Bool :=
  r.image + (r.range.last - r.range.first) < n || n < r.image

theorem eq_of_ofNat_eq_underscore {n : Nat} (h : Char.ofNat n = '_') : n = 0x5F := by
  by_cases hv : n.isValidChar
  · rw [← toNat_ofNat hv, h]
    rfl
  · unfold Char.ofNat at h
    rw [dif_neg hv] at h
    exact absurd h (by decide)

theorem underscore_notMem_caseImage {texts : List (Nat × List Nat)} {rs : List Text.CaseRun}
    (ht : texts.all fun e => e.2.all (· ≠ 0x5F)) (hr : rs.all (avoids 0x5F)) {c : Char}
    (hc : c ≠ '_') : '_' ∉ Text.caseImage texts rs c := by
  rcases caseImage_cases texts rs c with
    ⟨image, hmem, heq⟩ | ⟨r, hmem, hfirst, hlast, heq⟩ | heq <;> rw [heq]
  · intro hd
    obtain ⟨n, hn, heq⟩ := List.mem_map.mp hd
    have hne := List.all_eq_true.mp (List.all_eq_true.mp ht _ hmem) n hn
    exact of_decide_eq_true hne (eq_of_ofNat_eq_underscore heq)
  · intro hd
    have hsum := eq_of_ofNat_eq_underscore (List.mem_singleton.mp hd).symm
    have havoid := List.all_eq_true.mp hr r hmem
    unfold avoids at havoid
    simp only [Bool.or_eq_true, decide_eq_true_eq] at havoid
    omega
  · exact fun hd => hc (List.mem_singleton.mp hd).symm

theorem ne_underscore_case {c : Char} (h : c.isAlphanum = true) (hc : c.toNat < 0x80) :
    '_' ≠ c.toUpper ∧ '_' ≠ c.toLower :=
  forall_ascii (P := fun c => c.isAlphanum = true → '_' ≠ c.toUpper ∧ '_' ≠ c.toLower)
    (by decide) hc h

/-- **No underscore is in capitalized words**: it separates words, and no letter leads to it. -/
theorem underscore_notMem_upperCamel (t : Text) : '_' ∉ Text.upperCamel t := by
  have hcase : ∀ c, Text.isAlphanumeric c = true →
      '_' ∉ Text.uppercase c ∧ '_' ∉ Text.lowercase c := by
    intro c h
    unfold Text.uppercase Text.lowercase
    by_cases hc : c.toNat < 0x80
    · rw [Text.isAlphanumeric, if_pos hc] at h
      rw [if_pos hc, if_pos hc, List.mem_singleton, List.mem_singleton]
      exact ne_underscore_case h hc
    · have hne : c ≠ '_' := by
        rintro rfl
        exact hc (by decide)
      rw [if_neg hc, if_neg hc]
      exact ⟨underscore_notMem_caseImage (by decide +kernel) (by decide +kernel) hne,
        underscore_notMem_caseImage (by decide +kernel) (by decide +kernel) hne⟩
  intro h
  exact forall_mem_upperCamel (q := (· ≠ '_'))
    (fun c hc d hd heq => (hcase c hc).1 (heq ▸ hd))
    (fun c hc d hd heq => (hcase c hc).2 (heq ▸ hd)) (by decide) t '_' h rfl

/-! ## Names of types -/

/-- What every type name is: it begins with no digit, and there is something in it. -/
structure TypeName (t : Text) : Prop where
  characters : NameText t
  nonempty : t ≠ []
  no_digit : startsWithDigit t = false

/-- **The name made from a text** is a type name unless it is empty. -/
theorem TypeName.of_ne_nil {t : Text} (hne : typeName t ≠ []) : TypeName (typeName t) := by
  refine ⟨?_, hne, ?_⟩
  · unfold typeName
    dsimp only
    split
    · exact .cons (by decide) (nameText_upperCamel _)
    · exact nameText_upperCamel _
  · unfold typeName
    dsimp only
    split
    · rfl
    · next hd => simpa using hd

theorem TypeName.of_typeName? {t name : Text} (h : typeName? t = some name) : TypeName name := by
  unfold typeName? at h
  split at h
  · exact absurd h (by simp)
  · next hne =>
    obtain rfl := Option.some.inj h
    exact .of_ne_nil hne

/-- **The name of a type under a key** is a type name. -/
theorem typeName_typeNameOf (key : Text) (title : Option Text) :
    TypeName (typeNameOf key title) := by
  unfold typeNameOf
  cases h : (title.bind typeName?).or (typeName? key) with
  | some name =>
    rcases Option.or_eq_some_iff.mp h with h | ⟨_, h⟩
    · obtain ⟨t, _, ht⟩ := Option.bind_eq_some_iff.mp h
      exact .of_typeName? ht
    · exact .of_typeName? h
  | none =>
    rw [Option.getD_none, anonymousName, Text.ofString_eq]
    exact ⟨by decide, by decide, by decide⟩

/-- **The name of a root type** is a type name. -/
theorem typeName_rootName (title : Option Text) : TypeName (rootName title) := by
  unfold rootName
  cases h : title.bind typeName? with
  | some name =>
    obtain ⟨t, _, ht⟩ := Option.bind_eq_some_iff.mp h
    exact .of_typeName? ht
  | none =>
    rw [Option.getD_none, defaultRootName, Text.ofString_eq]
    exact ⟨by decide, by decide, by decide⟩

/-! ## Names of members -/

theorem memberName_ne_nil (value : Text) : memberName value ≠ [] := by
  unfold memberName
  dsimp only
  split
  · exact List.cons_ne_nil _ _
  · next h =>
    rw [Bool.or_eq_true, not_or] at h
    exact fun hnil => h.1 (List.isEmpty_iff.mpr hnil)

theorem underscore_notMem_memberName (value : Text) : '_' ∉ memberName value := by
  have hcamel := underscore_notMem_upperCamel value
  unfold memberName
  dsimp only
  split
  · exact fun h => hcamel ((List.mem_cons.mp h).resolve_left (by decide))
  · exact hcamel

theorem nameText_memberName (value : Text) : NameText (memberName value) := by
  unfold memberName
  dsimp only
  split
  · exact .cons (by decide) (nameText_upperCamel _)
  · exact nameText_upperCamel _

theorem nameText_distinctName {name : Text} (h : NameText name) (before after : List Text) :
    NameText (distinctName before name after) := by
  unfold distinctName
  split
  · refine h.append (.cons (by decide) fun c hc _ => ?_)
    have hd : c.isDigit = true := Nat.isDigit_of_mem_toDigits (by decide) (by decide) hc
    simp [isNamePart, Char.isAlphanum, hd]
  · exact h

/-- **The names of the members** of an enumeration. -/
theorem nameText_enumMembers {values : List Text} {m : EnumMember} (h : m ∈ enumMembers values) :
    NameText m.name := by
  unfold enumMembers at h
  generalize sortedDistinct values = vs at h
  generalize ([] : List Text) = before at h
  induction vs generalizing before with
  | nil => simp [enumMembersFrom] at h
  | cons v vs ih =>
    rw [enumMembersFrom] at h
    rcases List.mem_cons.mp h with rfl | h
    · exact nameText_distinctName (nameText_memberName v) _ _
    · exact ih _ h

/-! ## Names of properties -/

theorem isIdentifierPart_of_mem {key : Text} (h : isIdentifier key = true) {c : Char}
    (hc : c ∈ key) : isIdentifierPart c = true := by
  cases key with
  | nil => exact absurd hc List.not_mem_nil
  | cons d r =>
    simp only [isIdentifier, Bool.and_eq_true, List.all_eq_true] at h
    rcases List.mem_cons.mp hc with rfl | hc
    · rw [isIdentifierPart, h.1, Bool.true_or]
    · exact h.2 c hc

end SchemaTypes
