import SchemaTypes.Json.Compact
import SchemaTypes.Proofs.Schema.Reading

/-!
# Quoting

Between the quotes of a string literal stands the text itself, but for the characters that cannot
stand there. Such a literal is read as the text.

* `NeedsEscape`: the characters that cannot stand between quotes as they are.
* `Escaped`: what stands between quotes for a text if nothing else is escaped.
* `escaped_flatMap_escapedChar`: so it is in the literals that are written.
* `Escaped.exists_written`: it is a literal that stands for the text.
* **`readDocument_quoted`**: a document that is such a literal holds the text.
-/

namespace SchemaTypes.Json

/-! ## Escapes -/

/-- The characters that cannot stand between quotes as they are. -/
def NeedsEscape (c : Char) : Prop :=
  c = '"' ∨ c = '\\' ∨ c.toNat < 0x20

/-- What stands between quotes for a text: a character that needs one as an escape, and every other
one as it is. -/
inductive Escaped : Text → Text → Prop
  | nil : Escaped [] []
  | plain {c : Char} {t body : Text} (h : ¬NeedsEscape c) (ht : Escaped t body) :
      Escaped (c :: t) (c :: body)
  | escape {c : Char} {x t body : Text} (h : NeedsEscape c)
      (hx : Literal.WrittenPart (.char c) x ∨ Literal.WrittenPart (.unit c.toNat) x)
      (ht : Escaped t body) : Escaped (c :: t) (x ++ body)

/-! ## Writing -/

theorem escapedChar_of_not_needsEscape {c : Char} (h : ¬NeedsEscape c) : escapedChar c = [c] := by
  have hcontrol : ¬c.toNat < 0x20 := fun hc => h (.inr (.inr hc))
  unfold escapedChar
  split
  case h_8 => rw [if_neg (by omega), if_neg hcontrol]
  case h_1 => exact absurd (.inl rfl) h
  case h_2 => exact absurd (.inr (.inl rfl)) h
  all_goals exact absurd (by decide) hcontrol

/-- **A character that needs an escape** is written as one. -/
theorem writtenPart_escapedChar {c : Char} (h : NeedsEscape c) :
    Literal.WrittenPart (.char c) (escapedChar c) ∨
      Literal.WrittenPart (.unit c.toNat) (escapedChar c) := by
  have hone : ∀ n < 0x10, (['0', '0', '0'] ++ Text.hexadecimal n).length = 4 ∧
      hexNumber? (['0', '0', '0'] ++ Text.hexadecimal n) = some n := by
    decide
  have htwo : ∀ n < 0x20, 0x10 ≤ n → (['0', '0'] ++ Text.hexadecimal n).length = 4 ∧
      hexNumber? (['0', '0'] ++ Text.hexadecimal n) = some n := by
    decide
  unfold escapedChar
  split
  case h_8 hquote hback _ _ _ _ _ =>
    have hcontrol : c.toNat < 0x20 := (h.resolve_left hquote).resolve_left hback
    right
    split_ifs with hlow
    · rw [Text.ofString_eq]
      exact .unit (hone _ hlow).1 (hone _ hlow).2
    · rw [Text.ofString_eq]
      exact .unit (htwo _ hcontrol (by omega)).1 (htwo _ hcontrol (by omega)).2
  all_goals
    left
    rw [Text.ofString_eq]
    exact .escape rfl

/-- **What is written between quotes** is escaped where it has to be, and nowhere else. -/
theorem escaped_flatMap_escapedChar (t : Text) : Escaped t (t.flatMap escapedChar) := by
  induction t with
  | nil => exact .nil
  | cons c t ih =>
    rw [List.flatMap_cons]
    by_cases h : NeedsEscape c
    · exact .escape h (writtenPart_escapedChar h) ih
    · rw [escapedChar_of_not_needsEscape h]
      exact .plain h ih

/-! ## Reading -/

theorem Literal.text?_unit (c : Char) (l : Literal) :
    Literal.text? (.unit c.toNat :: l) = l.text?.map (c :: ·) := by
  have hvalid : c.toNat < 0xD800 ∨ 0xDFFF < c.toNat ∧ c.toNat < 0x110000 := c.valid
  have htrailing : isTrailing c.toNat = false := by
    rw [isTrailing, Bool.and_eq_false_iff, decide_eq_false_iff_not, decide_eq_false_iff_not]
    omega
  have hleading : isLeading c.toNat = false := by
    rw [isLeading, Bool.and_eq_false_iff, decide_eq_false_iff_not, decide_eq_false_iff_not]
    omega
  rw [Literal.text?.eq_def]
  dsimp only
  rw [if_neg (Bool.eq_false_iff.mp htrailing), if_neg (Bool.eq_false_iff.mp hleading),
    Char.ofNat_toNat]

/-- **What is escaped is a literal** that stands for the text. -/
theorem Escaped.exists_written {t body : Text} (h : Escaped t body) :
    ∃ l : Literal, l.Written body ∧ l.text? = some t := by
  induction h with
  | nil => exact ⟨[], rfl, rfl⟩
  | @plain c t body hc _ ih =>
    obtain ⟨l, hl, ht⟩ := ih
    have hplain : Literal.WrittenPart (.char c) [c] :=
      .plain (Nat.le_of_not_lt fun h => hc (.inr (.inr h))) (fun h => hc (.inl h))
        fun h => hc (.inr (.inl h))
    exact ⟨.char c :: l, ⟨[c], body, hplain, hl, rfl⟩, by rw [Literal.text?, ht]; rfl⟩
  | @escape c x t body _ hx _ ih =>
    obtain ⟨l, hl, ht⟩ := ih
    rcases hx with hx | hx
    · exact ⟨.char c :: l, ⟨x, body, hx, hl, rfl⟩, by rw [Literal.text?, ht]; rfl⟩
    · exact ⟨.unit c.toNat :: l, ⟨x, body, hx, hl, rfl⟩, by rw [Literal.text?_unit, ht]; rfl⟩

/-- **A document that is a string literal** holds the text between its quotes. -/
theorem readDocument_quoted {t body : Text} (h : Escaped t body) (levels : Nat) :
    readDocument (reader levels) ('"' :: (body ++ ['"'])) = .ok (.string t) := by
  obtain ⟨l, hl, ht⟩ := h.exists_written
  have hdocument : (Tree.string l).Document ('"' :: (body ++ ['"'])) :=
    ⟨[], _, [], .nil, ⟨body, hl, rfl⟩, .nil, by rw [List.nil_append, List.append_nil]⟩
  have hread := toOption_readDocument (reads_reader levels) hdocument
  have hvalue : (Tree.string l).json levels = some (.string t) := by
    cases levels <;> exact congrArg (Option.map string) ht
  rw [hvalue] at hread
  cases hresult : readDocument (reader levels) ('"' :: (body ++ ['"'])) with
  | error fault =>
    rw [hresult] at hread
    exact absurd hread nofun
  | ok v =>
    rw [hresult] at hread
    exact congrArg Except.ok (Option.some.inj hread)

end SchemaTypes.Json
