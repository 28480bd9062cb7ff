import Mathlib.Data.List.TakeWhile
import SchemaTypes.Extension.ClassHeader

/-!
# The pattern of class headers

A class header is spacing, the words `export`, `default` and `abstract` if they are there, the word
`class` and a name that goes on as far as it can. Spacing follows every word.

* `IsClassHeader`: the pattern.
* **`classHeader?_eq_some_iff`**: the names that are found are those of the pattern.
-/

namespace SchemaTypes

/-! ## The pattern -/

/-- The text is nothing but spacing. -/
def IsSpacing (t : Text) : Prop := ∀ c ∈ t, isSpacing c = true

/-- A word and the spacing behind it, of which there is some. -/
def IsWord (word t : Text) : Prop := ∃ gap, gap ≠ [] ∧ IsSpacing gap ∧ t = word ++ gap

/-- A word and the spacing behind it, or nothing. -/
def IsOptionalWord (word t : Text) : Prop := t = [] ∨ IsWord word t

/-- The text is a name. -/
def IsName (t : Text) : Prop :=
  ∃ c r, t = c :: r ∧ isNameStart c = true ∧ ∀ d ∈ r, isNamePart d = true

/-- The pattern of a class header in front of a text. -/
def IsClassHeader (t name : Text) : Prop :=
  ∃ lead exported default abstract keyword rest,
    t = lead ++ (exported ++ (default ++ (abstract ++ (keyword ++ (name ++ rest))))) ∧
    IsSpacing lead ∧ IsOptionalWord "export" exported ∧ IsOptionalWord "default" default ∧
    IsOptionalWord "abstract" abstract ∧ IsWord "class" keyword ∧ IsName name ∧
    ∀ c ∈ rest.head?, isNamePart c = false

/-! ## Words and names -/

/-- The text does not begin with spacing. -/
def NoSpacingAhead (t : Text) : Prop := ∀ c ∈ t.head?, isSpacing c = false

theorem skipSpacing_append {gap t : Text} (hg : IsSpacing gap) (ht : NoSpacingAhead t) :
    skipSpacing (gap ++ t) = t := by
  unfold skipSpacing
  rw [List.dropWhile_append_of_pos hg]
  cases t with
  | nil => rfl
  | cons c r => rw [List.dropWhile_cons_of_neg]; simp [ht c rfl]

theorem noSpacingAhead_skipSpacing (t : Text) : NoSpacingAhead (skipSpacing t) := by
  intro c hc
  have := List.head?_dropWhile_not isSpacing t
  rw [skipSpacing, Option.mem_def] at hc
  simpa [hc] using this

theorem exists_eq_append_skipSpacing (t : Text) : ∃ gap, IsSpacing gap ∧ t = gap ++ skipSpacing t :=
  ⟨t.takeWhile isSpacing, fun _ h => List.mem_takeWhile_imp h,
    (List.takeWhile_append_dropWhile).symm⟩

/-- **A word is taken off with all spacing behind it.** -/
theorem word?_eq_some_iff {word t r : Text} :
    word? word t = some r ↔ NoSpacingAhead r ∧ ∃ w, IsWord word w ∧ t = w ++ r := by
  constructor
  · intro h
    unfold word? at h
    split at h
    · next hw =>
      obtain ⟨u, rfl⟩ := List.isPrefixOf_iff_prefix.mp hw
      rw [List.drop_left] at h
      cases u with
      | nil => simp at h
      | cons c u =>
        by_cases hc : isSpacing c
        · obtain rfl : skipSpacing u = r := by simpa [hc] using h
          obtain ⟨gap, hg, hu⟩ := exists_eq_append_skipSpacing u
          refine ⟨noSpacingAhead_skipSpacing u, word ++ c :: gap, ⟨c :: gap, by simp, ?_, rfl⟩, ?_⟩
          · intro d hd
            cases List.mem_cons.mp hd with
            | inl h => exact h ▸ hc
            | inr h => exact hg d h
          · rw [List.append_assoc, List.cons_append, ← hu]
        · simp [hc] at h
    · exact absurd h (by simp)
  · rintro ⟨hr, w, ⟨gap, hne, hg, rfl⟩, rfl⟩
    have hp : Text.startsWith (word ++ gap ++ r) word = true :=
      List.isPrefixOf_iff_prefix.mpr ⟨gap ++ r, by rw [List.append_assoc]⟩
    unfold word?
    rw [if_pos hp, List.append_assoc, List.drop_left]
    cases gap with
    | nil => exact absurd rfl hne
    | cons c gap =>
      have hc : isSpacing c = true := hg c List.mem_cons_self
      have hgap : IsSpacing gap := fun d hd => hg d (List.mem_cons_of_mem _ hd)
      simp only [List.cons_append, hc, if_true, skipSpacing_append hgap hr]

theorem word?_eq_none {word t : Text} (h : t.startsWith word = false) : word? word t = none := by
  simp [word?, h]

theorem skipWord_eq (word : Text) {t : Text} (ht : NoSpacingAhead t) :
    NoSpacingAhead (skipWord word t) ∧
      ∃ w, IsOptionalWord word w ∧ t = w ++ skipWord word t := by
  unfold skipWord
  cases h : word? word t with
  | none => exact ⟨ht, [], .inl rfl, rfl⟩
  | some r =>
    obtain ⟨hr, w, hw, rfl⟩ := word?_eq_some_iff.mp h
    exact ⟨hr, w, .inr hw, rfl⟩

theorem skipWord_append {word w t : Text} (hw : IsOptionalWord word w) (ht : NoSpacingAhead t)
    (hne : t.startsWith word = false) : skipWord word (w ++ t) = t := by
  unfold skipWord
  rcases hw with rfl | hw
  · rw [List.nil_append, word?_eq_none hne, Option.getD_none]
  · rw [word?_eq_some_iff.mpr ⟨ht, w, hw, rfl⟩, Option.getD_some]

theorem name?_eq_some_iff {t name : Text} :
    name? t = some name ↔
      ∃ rest, t = name ++ rest ∧ IsName name ∧ ∀ c ∈ rest.head?, isNamePart c = false := by
  constructor
  · intro h
    cases t with
    | nil => simp [name?] at h
    | cons c r =>
      rw [name?] at h
      split at h
      · next hc =>
        obtain rfl := Option.some.inj h
        refine ⟨r.dropWhile isNamePart, by simp, ⟨c, _, rfl, hc, fun d hd =>
          List.mem_takeWhile_imp hd⟩, fun d hd => ?_⟩
        have := List.head?_dropWhile_not isNamePart r
        rw [Option.mem_def] at hd
        simpa [hd] using this
      · exact absurd h (by simp)
  · rintro ⟨rest, rfl, ⟨c, r, rfl, hc, hr⟩, hrest⟩
    rw [List.cons_append, name?, if_pos hc, List.takeWhile_append_of_pos hr]
    cases rest with
    | nil => simp
    | cons d rest => rw [List.takeWhile_cons_of_neg (by simp [hrest d rfl]), List.append_nil]

/-! ## Headers -/

/-- The character that a text begins with is one of some characters, none of them spacing. -/
def BeginsIn (letters : List Char) (t : Text) : Prop :=
  ∃ c ∈ letters, t.head? = some c ∧ isSpacing c = false

theorem BeginsIn.noSpacingAhead {letters : List Char} {t : Text} (h : BeginsIn letters t) :
    NoSpacingAhead t := by
  obtain ⟨c, _, ht, hc⟩ := h
  intro d hd
  rw [ht, Option.mem_some_iff] at hd
  exact hd ▸ hc

theorem BeginsIn.startsWith_eq_false {letters : List Char} {word t : Text} {c : Char}
    (h : BeginsIn letters t) (hw : word.head? = some c) (hc : c ∉ letters) :
    t.startsWith word = false := by
  rw [Bool.eq_false_iff]
  intro hp
  obtain ⟨u, rfl⟩ := List.isPrefixOf_iff_prefix.mp hp
  obtain ⟨d, hd, ht, _⟩ := h
  rw [List.head?_append, hw, Option.some_or, Option.some.injEq] at ht
  exact hc (ht ▸ hd)

theorem beginsIn_word {word w t : Text} {c : Char} (hw : IsWord word w) (hc : word.head? = some c)
    (hs : isSpacing c = false) : BeginsIn [c] (w ++ t) := by
  obtain ⟨gap, _, _, rfl⟩ := hw
  refine ⟨c, List.mem_singleton_self c, ?_, hs⟩
  rw [List.append_assoc, List.head?_append, hc, Option.some_or]

theorem BeginsIn.append {letters : List Char} {word w t : Text} {c : Char} (h : BeginsIn letters t)
    (hw : IsOptionalWord word w) (hc : word.head? = some c) (hs : isSpacing c = false) :
    BeginsIn (c :: letters) (w ++ t) := by
  rcases hw with rfl | hw
  · obtain ⟨d, hd, ht, hds⟩ := h
    exact ⟨d, List.mem_cons_of_mem _ hd, ht, hds⟩
  · obtain ⟨d, hd, ht, hds⟩ := beginsIn_word (t := t) hw hc hs
    exact ⟨d, List.mem_cons.mpr (.inl (List.mem_singleton.mp hd)), ht, hds⟩

/-- **The name that is found is the name of the pattern.** -/
theorem classHeader?_eq_some_iff {t name : Text} :
    classHeader? t = some name ↔ IsClassHeader t name := by
  unfold classHeader?
  rw [Option.bind_eq_bind, Option.bind_eq_some_iff]
  constructor
  · rintro ⟨u, hu, hname⟩
    obtain ⟨lead, hlead, ht⟩ := exists_eq_append_skipSpacing t
    obtain ⟨h₁, exported, hx, e₁⟩ := skipWord_eq "export" (noSpacingAhead_skipSpacing t)
    obtain ⟨h₂, default, hd, e₂⟩ := skipWord_eq "default" h₁
    obtain ⟨_, abstract, ha, e₃⟩ := skipWord_eq "abstract" h₂
    obtain ⟨_, keyword, hk, e₄⟩ := word?_eq_some_iff.mp hu
    obtain ⟨rest, e₅, hn, hrest⟩ := name?_eq_some_iff.mp hname
    refine ⟨lead, exported, default, abstract, keyword, rest, ?_, hlead, hx, hd, ha, hk, hn, hrest⟩
    rw [← e₅, ← e₄, ← e₃, ← e₂, ← e₁, ← ht]
  · rintro ⟨lead, exported, default, abstract, keyword, rest, rfl, hlead, hx, hd, ha, hk, hn, hrest⟩
    refine ⟨name ++ rest, ?_, name?_eq_some_iff.mpr ⟨rest, rfl, hn, hrest⟩⟩
    have wx : (("export" : Text)).head? = some 'e' := by rw [Text.ofString_eq]; rfl
    have wd : (("default" : Text)).head? = some 'd' := by rw [Text.ofString_eq]; rfl
    have wa : (("abstract" : Text)).head? = some 'a' := by rw [Text.ofString_eq]; rfl
    have wk : (("class" : Text)).head? = some 'c' := by rw [Text.ofString_eq]; rfl
    -- every word begins with a letter of its own, so a word that is missing is not found
    have b₄ := beginsIn_word (t := name ++ rest) hk wk (by decide)
    have b₃ := b₄.append ha wa (by decide)
    have b₂ := b₃.append hd wd (by decide)
    have b₁ := b₂.append hx wx (by decide)
    have hnext : NoSpacingAhead (name ++ rest) := by
      obtain ⟨c, r, rfl, hc, _⟩ := hn
      intro d hd
      obtain rfl : c = d := by simpa using hd
      rw [Bool.eq_false_iff]
      intro hs
      simp only [isSpacing, Bool.or_eq_true, decide_eq_true_eq] at hs
      rcases hs with rfl | rfl <;> simp [isNameStart] at hc
    rw [skipSpacing_append hlead b₁.noSpacingAhead,
      skipWord_append hx b₂.noSpacingAhead (b₂.startsWith_eq_false wx (by decide)),
      skipWord_append hd b₃.noSpacingAhead (b₃.startsWith_eq_false wd (by decide)),
      skipWord_append ha b₄.noSpacingAhead (b₄.startsWith_eq_false wa (by decide)),
      word?_eq_some_iff]
    exact ⟨hnext, keyword, hk, rfl⟩

end SchemaTypes
