import SchemaTypes.Proofs.Json.Characters
import SchemaTypes.Proofs.Scan.Neutral

/-!
# Values in code

Whatever a value holds, its written form is neutral: nothing in a string ends the literal, and
outside literals there are only numbers, words and pairs of brackets.

* `staysQuoted_flatMap_escapedChar`: an escaped text does not leave its literal.
* `inert_numberLiteral`: the characters of numbers.
* **`neutral_compact`**: values.
-/

namespace SchemaTypes.Json

/-! ## Strings -/

theorem staysQuoted_escapedChar (c : Char) : StaysQuoted (escapedChar c) := by
  have hex : ∀ n < 32, (Text.hexadecimal n).all isQuotable = true := by decide
  unfold escapedChar
  split
  case h_8 hq hb _ _ _ _ _ =>
    split
    · rw [Text.ofString_eq]
      refine (staysQuoted_escape 'u').append (y := ['0', '0', '0'] ++ _) ?_
      refine .append (staysQuoted_of_all (by decide)) (staysQuoted_of_all (hex _ (by omega)))
    · split
      · rw [Text.ofString_eq]
        refine (staysQuoted_escape 'u').append (y := ['0', '0'] ++ _) ?_
        exact .append (staysQuoted_of_all (by decide)) (staysQuoted_of_all (hex _ (by omega)))
      · exact staysQuoted_singleton hq hb
  all_goals
    rw [Text.ofString_eq]
    exact staysQuoted_escape _

/-- **An escaped text** does not leave its literal. -/
theorem staysQuoted_flatMap_escapedChar (t : Text) : StaysQuoted (t.flatMap escapedChar) := by
  induction t with
  | nil => exact fun _ => .refl _
  | cons c t ih => exact (staysQuoted_escapedChar c).append ih

theorem stringLiteral_eq (t : Text) :
    stringLiteral t = '"' :: t.flatMap escapedChar ++ ['"'] := by
  rw [stringLiteral, Text.ofString_eq]
  rfl

theorem neutral_stringLiteral (t : Text) : Neutral (stringLiteral t) := by
  rw [stringLiteral_eq]
  exact neutral_quoted (staysQuoted_flatMap_escapedChar t)

/-! ## Numbers -/

theorem inert_numberLiteral (n : Number) : Inert n.literal :=
  fun c hc => isInert_of_class (p := isNumberPart) (by decide) (numberText_literal n c hc)

/-! ## Values -/

mutual

/-- **A value is neutral.** -/
theorem neutral_compact : (v : Json) → Neutral v.compact
  | null => by
    rw [compact, Text.ofString_eq]
    exact neutral_inert (by decide)
  | bool true => by
    rw [compact, Text.ofString_eq]
    exact neutral_inert (by decide)
  | bool false => by
    rw [compact, Text.ofString_eq]
    exact neutral_inert (by decide)
  | number n => by
    rw [compact]
    exact neutral_inert (inert_numberLiteral n)
  | string t => by
    rw [compact]
    exact neutral_stringLiteral t
  | array [] => by
    rw [compact, Text.ofString_eq]
    exact neutral_inert (by decide)
  | array (v :: vs) => by
    rw [compact, Text.ofString_eq]
    exact ((neutral_inert (by decide)).append (neutral_compact v)).append (neutral_compactItems vs)
  | object [] => by
    rw [compact, Text.ofString_eq]
    exact neutral_nil.braces
  | object ((k, v) :: ms) => by
    obtain ⟨x, hx, e⟩ := neutral_compactMembers ms
    have hc : Neutral (":" : Text) := by
      rw [Text.ofString_eq]
      exact neutral_inert (by decide)
    have := ((((neutral_stringLiteral k).append hc).append (neutral_compact v)).append hx).braces
    rw [compact, e, Text.ofString_eq "\x7b"]
    simpa using this

theorem neutral_compactItems : (vs : List Json) → Neutral (compactItems vs)
  | [] => by
    rw [compactItems, Text.ofString_eq]
    exact neutral_inert (by decide)
  | v :: vs => by
    rw [compactItems, Text.ofString_eq]
    exact ((neutral_inert (by decide)).append (neutral_compact v)).append (neutral_compactItems vs)

theorem neutral_compactMembers :
    (ms : List (Text × Json)) → ∃ x, Neutral x ∧ compactMembers ms = x ++ ['\x7d']
  | [] => ⟨[], neutral_nil, by rw [compactMembers, Text.ofString_eq]; rfl⟩
  | (k, v) :: ms => by
    obtain ⟨x, hx, e⟩ := neutral_compactMembers ms
    have hc : Neutral (":" : Text) := by
      rw [Text.ofString_eq]
      exact neutral_inert (by decide)
    have hs : Neutral ("," : Text) := by
      rw [Text.ofString_eq]
      exact neutral_inert (by decide)
    refine ⟨_, (((hs.append (neutral_stringLiteral k)).append hc).append (neutral_compact v)).append
      hx, ?_⟩
    rw [compactMembers, e, ← List.append_assoc]

end

end SchemaTypes.Json
