import SchemaTypes.Proofs.Generation.Initializers
import SchemaTypes.Proofs.Generation.Lines
import SchemaTypes.Proofs.Json.Quoting

/-!
# Names of properties

A property is written under its key, and the key can be told from what is written: it stands there
as it is if it is an identifier, and otherwise as a string literal.

* `IdentifierText`: the pattern of identifiers; `isIdentifier_iff`: the keys without quotes.
* `propertyName_of_identifier`, `exists_propertyName_eq_quoted`: the two forms.
* `propertyName_injective`: no name is that of two keys.
* `Outline.nodup_keys`: no key is there twice in a type.
* **`propertyName_reads_back`**: every name tells its key.
-/

namespace SchemaTypes

/-! ## Identifiers -/

/-- The letters of ASCII, the underscore and the dollar sign. -/
def IdentifierStart (c : Char) : Prop :=
  'A' ≤ c ∧ c ≤ 'Z' ∨ 'a' ≤ c ∧ c ≤ 'z' ∨ c = '_' ∨ c = '$'

/-- The pattern of identifiers, which do not begin with a digit. -/
def IdentifierText (t : Text) : Prop :=
  ∃ c r, t = c :: r ∧ IdentifierStart c ∧ ∀ d ∈ r, IdentifierStart d ∨ '0' ≤ d ∧ d ≤ '9'

theorem startsIdentifier_iff (c : Char) : startsIdentifier c = true ↔ IdentifierStart c := by
  simp only [startsIdentifier, Char.isAlpha, Char.isUpper, Char.isLower, Bool.or_eq_true,
    Bool.and_eq_true, decide_eq_true_eq, or_assoc]
  exact Iff.rfl

theorem isIdentifierPart_iff (c : Char) :
    isIdentifierPart c = true ↔ IdentifierStart c ∨ '0' ≤ c ∧ c ≤ '9' := by
  rw [isIdentifierPart, Bool.or_eq_true, startsIdentifier_iff]
  simp only [Text.isAsciiDigit, Char.isDigit, Bool.and_eq_true, decide_eq_true_eq]
  exact Iff.rfl

/-- **The keys that are written without quotes** are the identifiers. -/
theorem isIdentifier_iff (key : Text) : isIdentifier key = true ↔ IdentifierText key := by
  cases key with
  | nil => exact ⟨nofun, nofun⟩
  | cons c r =>
    simp only [isIdentifier, Bool.and_eq_true, List.all_eq_true, startsIdentifier_iff,
      isIdentifierPart_iff]
    constructor
    · rintro ⟨hc, hr⟩
      exact ⟨c, r, rfl, hc, hr⟩
    · rintro ⟨_, _, h, hc, hr⟩
      obtain ⟨rfl, rfl⟩ := List.cons.inj h
      exact ⟨hc, hr⟩

theorem not_identifierText_quote (t : Text) : ¬IdentifierText ('"' :: t) := by
  intro h
  exact absurd (isIdentifierPart_of_mem ((isIdentifier_iff _).mpr h) List.mem_cons_self)
    (by decide)

/-! ## Names and keys -/

section Names

variable {key : Text}

theorem propertyName_of_identifier (h : IdentifierText key) : propertyName key = key :=
  if_pos ((isIdentifier_iff key).mpr h)

theorem exists_propertyName_eq_quoted (h : ¬IdentifierText key) :
    ∃ body, propertyName key = '"' :: (body ++ ['"']) ∧ Json.Escaped key body :=
  ⟨key.flatMap Json.escapedChar,
    (if_neg (mt (isIdentifier_iff key).mp h)).trans (Json.stringLiteral_eq key),
    Json.escaped_flatMap_escapedChar key⟩

theorem readDocument_propertyName (h : ¬IdentifierText key) (levels : Nat) :
    Json.readDocument (Json.reader levels) (propertyName key) = .ok (.string key) := by
  obtain ⟨body, hname, hbody⟩ := exists_propertyName_eq_quoted h
  rw [hname]
  exact Json.readDocument_quoted hbody levels

end Names

theorem propertyName_ne_of_identifier {key key' : Text} (h : IdentifierText key)
    (h' : ¬IdentifierText key') : propertyName key ≠ propertyName key' := by
  obtain ⟨body, hname, _⟩ := exists_propertyName_eq_quoted h'
  rw [propertyName_of_identifier h, hname]
  rintro rfl
  exact not_identifierText_quote _ h

/-- **No name is that of two keys.** -/
theorem propertyName_injective : Function.Injective propertyName := by
  intro key key' heq
  by_cases h : IdentifierText key
  · by_cases h' : IdentifierText key'
    · rwa [propertyName_of_identifier h, propertyName_of_identifier h'] at heq
    · exact absurd heq (propertyName_ne_of_identifier h h')
  · by_cases h' : IdentifierText key'
    · exact absurd heq.symm (propertyName_ne_of_identifier h' h)
    · have hread := readDocument_propertyName h 0
      rw [heq, readDocument_propertyName h' 0] at hread
      exact (Json.string.inj (Except.ok.inj hread)).symm

/-! ## Names in a type -/

/-- **No key is there twice in a type.** -/
theorem Outline.nodup_keys {dates : DateType} {schema : Text} {o : Outline}
    (h : Outline.ofText dates schema = .ok o) {t : TypeDeclaration} (ht : t ∈ o.types) :
    (t.properties.map Property.key).Nodup := by
  obtain ⟨sch, hsch, _, rfl, _⟩ := exists_schema_of_ofText h
  obtain ⟨part, hpart, hmade⟩ := exists_origin rfl (filed_of_ofText h) ht
  rw [hmade.map_key]
  exact ((Schema.ordered_ofText hsch).of_origin? hpart).nodup_keys

/-- **Every name of a property tells its key.** No control is in the name. A key that is an
identifier is its own name. The name of every other key stands in quotes, between which nothing is
escaped that could stand there as it is, and the document that it makes holds the key. So the keys
of a type, of which no two are equal, have different names. -/
theorem propertyName_reads_back :
    (∀ key, NoControl (propertyName key) ∧
      (IdentifierText key ∧ propertyName key = key ∨
        ¬IdentifierText key ∧ (∃ body, propertyName key = '"' :: (body ++ ['"']) ∧
          Json.Escaped key body) ∧
          ∀ levels, Json.readDocument (Json.reader levels) (propertyName key) =
            .ok (.string key))) ∧
      Function.Injective propertyName ∧
      ∀ dates schema o, Outline.ofText dates schema = .ok o → ∀ t ∈ o.types,
        (t.properties.map fun p => propertyName p.key).Nodup := by
  refine ⟨fun key => ⟨noControl_propertyName key, ?_⟩, propertyName_injective,
    fun dates schema o ho t ht => ?_⟩
  · by_cases h : IdentifierText key
    · exact .inl ⟨h, propertyName_of_identifier h⟩
    · exact .inr ⟨h, exists_propertyName_eq_quoted h, readDocument_propertyName h⟩
  · have hnames := (Outline.nodup_keys ho ht).map propertyName_injective
    rwa [List.map_map] at hnames

/-! ## Keys that are much alike -/

/-- A type whose keys are nothing, a word, the same word in quotes, a line feed and a backslash. -/
def labelSchema : Text :=
  ("\x7b\"type\":\"object\",\"title\":\"Label\",\"properties\":\x7b\"\":\x7b\x7d," : Text) ++
    "\"a\":\x7b\x7d,\"\\\"a\\\"\":\x7b\x7d,\"\\n\":\x7b\x7d,\"\\\\\":\x7b\x7d\x7d\x7d"

/-- The keys of the label as they are written. -/
def labelNames : List Text :=
  ["\"\"", "\"\\n\"", "\"\\\"a\\\"\"", "\"\\\\\"", "a"]

set_option maxRecDepth 100000 in
/-- They have different names. -/
theorem label_names_differ :
    ∃ o, Outline.ofText .date labelSchema = .ok o ∧
      (o.types.map fun t => t.properties.map fun p => propertyName p.key) = [labelNames] ∧
      ∀ t ∈ o.types, (t.properties.map fun p => propertyName p.key).Nodup := by
  have hnames : (Outline.ofText .date labelSchema).map
      (fun o => o.types.map fun t => t.properties.map fun p => propertyName p.key) =
        .ok [labelNames] := by
    cbv
  obtain ⟨o, ho, hnames'⟩ := exists_of_map_eq_ok hnames
  exact ⟨o, ho, hnames', propertyName_reads_back.2.2 .date labelSchema o ho⟩

end SchemaTypes
