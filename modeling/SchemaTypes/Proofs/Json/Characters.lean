import SchemaTypes.Json.Compact
import SchemaTypes.Proofs.Text.Names

/-!
# Characters of values

Which characters stand in the written form of a value: a number is made of digits, signs, a point
and the mark of an exponent, and no value has a control in it.

* `NumberText`: a text of the characters of numbers; `numberText_literal`: a number is one.
* `NoControl`: no character of the text lies below the space.
* **`noControl_compact`**: so it is in a written value, whatever the value holds.
-/

namespace SchemaTypes

/-! ## Texts without controls -/

/-- No character of the text lies below the space. -/
def NoControl (t : Text) : Prop :=
  ∀ c ∈ t, 0x20 ≤ c.toNat

instance (t : Text) : Decidable (NoControl t) :=
  decidable_of_iff (t.all fun c => decide (0x20 ≤ c.toNat)) <| by
    simp only [List.all_eq_true, decide_eq_true_eq, NoControl]

namespace NoControl

variable {s t : Text}

theorem nil : NoControl [] :=
  List.forall_mem_nil _

theorem append (hs : NoControl s) (ht : NoControl t) : NoControl (s ++ t) :=
  List.forall_mem_append.mpr ⟨hs, ht⟩

theorem flatMap {α : Type} {f : α → Text} {l : List α} (h : ∀ a ∈ l, NoControl (f a)) :
    NoControl (l.flatMap f) := by
  intro c hc
  obtain ⟨a, ha, hc⟩ := List.mem_flatMap.mp hc
  exact h a ha c hc

theorem of_string {s : String} (h : NoControl s.toList) : NoControl (s : Text) := by
  rw [Text.ofString_eq]
  exact h

end NoControl

theorem le_toNat_of_class {p : Char → Bool} (hp : ∀ n < 0x20, p (Char.ofNat n) = false) {c : Char}
    (h : c.toNat < 0x20 → p c = true) : 0x20 ≤ c.toNat := by
  refine Nat.le_of_not_lt fun hlt => ?_
  have hcontrol := hp c.toNat hlt
  rw [Char.ofNat_toNat, h hlt] at hcontrol
  exact Bool.noConfusion hcontrol

theorem NameText.noControl {t : Text} (h : NameText t) : NoControl t :=
  fun c hc => le_toNat_of_class (p := isNamePart) (by decide) fun hlt => h c hc (by omega)

namespace Json

/-! ## Numbers -/

/-- May the character stand in a number? -/
def isNumberPart (c : Char) : Bool :=
  c.isDigit || c = '-' || c = '+' || c = '.' || c = 'e'

/-- A text of the characters of numbers. -/
def NumberText (t : Text) : Prop :=
  ∀ c ∈ t, isNumberPart c = true

instance (t : Text) : Decidable (NumberText t) :=
  decidable_of_iff (t.all isNumberPart) List.all_eq_true

theorem NumberText.append {s t : Text} (hs : NumberText s) (ht : NumberText t) :
    NumberText (s ++ t) :=
  List.forall_mem_append.mpr ⟨hs, ht⟩

theorem NumberText.of_subset {s t : Text} (ht : NumberText t) (h : s ⊆ t) : NumberText s :=
  fun c hc => ht c (h hc)

theorem numberText_decimal (n : Nat) : NumberText (Text.decimal n) := by
  intro c hc
  have hd : c.isDigit = true := Nat.isDigit_of_mem_toDigits (by decide) (by decide) hc
  simp [isNumberPart, hd]

theorem numberText_replicate_zero (n : Nat) : NumberText (List.replicate n '0') := by
  intro c hc
  rw [List.eq_of_mem_replicate hc]
  rfl

theorem numberText_integerLiteral (n : Int) : NumberText (integerLiteral n) := by
  unfold integerLiteral
  split
  · exact .append (s := ['-']) (by decide) (numberText_decimal _)
  · exact numberText_decimal _

theorem numberText_significantDigits (n : Nat) : NumberText (significantDigits n) := by
  refine (numberText_decimal n).of_subset fun c hc => ?_
  rw [significantDigits, List.mem_reverse] at hc
  exact List.mem_reverse.mp (List.dropWhile_subset _ hc)

theorem numberText_positional {digits : Text} (h : NumberText digits) (point : Int) :
    NumberText (positional digits point) := by
  have hp : NumberText ("." : Text) := by rw [Text.ofString_eq]; decide
  unfold positional
  split
  · exact .append (.append (by rw [Text.ofString_eq]; decide) (numberText_replicate_zero _)) h
  · split
    · exact .append (.append h (numberText_replicate_zero _)) (by rw [Text.ofString_eq]; decide)
    · exact .append (.append (h.of_subset (List.take_subset _ _)) hp)
        (h.of_subset (List.drop_subset _ _))

theorem numberText_scientific {digits : Text} (h : NumberText digits) (exponent : Int) :
    NumberText (scientific digits exponent) := by
  have hf := h.of_subset (List.drop_subset 1 digits)
  unfold scientific
  refine .append (.append (.append (.append (h.of_subset (List.take_subset _ _)) ?_) ?_) ?_)
    (numberText_decimal _)
  · split
    · exact List.forall_mem_nil _
    · exact .append (s := ['.']) (by decide) hf
  · rw [Text.ofString_eq]; decide
  · split <;> rw [Text.ofString_eq] <;> decide

theorem numberText_decimalLiteral (d : Decimal) : NumberText (decimalLiteral d) := by
  unfold decimalLiteral
  dsimp only
  split
  · exact numberText_positional (numberText_significantDigits _) _
  · exact numberText_scientific (numberText_significantDigits _) _

theorem numberText_doubleLiteral (x : Float) : NumberText (doubleLiteral x) := by
  have h : NumberText (if x.toBits.toNat % 2 ^ 63 = 0 then ("0.0" : Text) else
      decimalLiteral (Binary.ofBits x.toBits).shortest) := by
    split
    · rw [Text.ofString_eq]; decide
    · exact numberText_decimalLiteral _
  unfold doubleLiteral
  dsimp only
  split
  · exact h
  · exact .append (s := ['-']) (by decide) h

/-- **A number** is made of the characters of numbers. -/
theorem numberText_literal (n : Number) : NumberText n.literal := by
  cases n with
  | integer n => exact numberText_integerLiteral n
  | double x => exact numberText_doubleLiteral x

theorem NumberText.noControl {t : Text} (h : NumberText t) : NoControl t :=
  fun c hc => le_toNat_of_class (p := isNumberPart) (by decide) fun _ => h c hc

/-! ## Strings -/

/-- **A control is escaped.** -/
theorem noControl_escapedChar (c : Char) : NoControl (escapedChar c) := by
  have hex : ∀ n < 32, NoControl (Text.hexadecimal n) := by decide
  unfold escapedChar
  split
  case h_8 =>
    split
    · exact .append (.of_string (by decide)) (hex _ (by omega))
    · split
      · exact .append (.of_string (by decide)) (hex _ (by omega))
      · intro d hd
        rw [List.mem_singleton.mp hd]
        omega
  all_goals exact .of_string (by decide)

theorem noControl_stringLiteral (t : Text) : NoControl (stringLiteral t) := by
  have hquote : NoControl ("\"" : Text) := .of_string (by decide)
  unfold stringLiteral
  exact (hquote.append (.flatMap fun c _ => noControl_escapedChar c)).append hquote

/-! ## Values -/

mutual

/-- **No value has a control in it.** -/
theorem noControl_compact : (v : Json) → NoControl v.compact
  | null | bool true | bool false | array [] | object [] => .of_string (by decide)
  | number n => (numberText_literal n).noControl
  | string t => noControl_stringLiteral t
  | array (v :: vs) => by
    rw [compact]
    exact .append (.append (.of_string (by decide)) (noControl_compact v))
      (noControl_compactItems vs)
  | object ((k, v) :: ms) => by
    rw [compact]
    exact .append (.append (.append (.append (.of_string (by decide)) (noControl_stringLiteral k))
      (.of_string (by decide))) (noControl_compact v)) (noControl_compactMembers ms)

theorem noControl_compactItems : (vs : List Json) → NoControl (compactItems vs)
  | [] => .of_string (by decide)
  | v :: vs => by
    rw [compactItems]
    exact .append (.append (.of_string (by decide)) (noControl_compact v))
      (noControl_compactItems vs)

theorem noControl_compactMembers : (ms : List (Text × Json)) → NoControl (compactMembers ms)
  | [] => .of_string (by decide)
  | (k, v) :: ms => by
    rw [compactMembers]
    exact .append (.append (.append (.append (.of_string (by decide)) (noControl_stringLiteral k))
      (.of_string (by decide))) (noControl_compact v)) (noControl_compactMembers ms)

end

end Json

end SchemaTypes
