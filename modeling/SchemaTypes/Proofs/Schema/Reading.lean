import SchemaTypes.Proofs.Json.Fields
import SchemaTypes.Proofs.Schema.Canonical

/-!
# Schemas as functions of trees

A schema is read keyword by keyword. In canonical form it is a function of the tree that its
document holds.

* `Keyword.Value`, `Schema.put`: the values of a keyword, and a schema with one.
* `Keyword.valueOf`: the canonical value of a keyword for a tree.
* `Tree.json`, `Schema.ofTree`: the values of a tree whose containers are nested so many levels
  deep.
* **`canonical_ofText`**: the schema of a document.
-/

namespace SchemaTypes

open Json

/-! ## Keywords -/

namespace Schema

/-- The keyword that is written as the key. -/
def keyword? (key : Text) : Option Keyword :=
  keywords.find? fun k => k.key = key

/-- The values of a keyword. -/
def Keyword.Value : Keyword → Type
  | title => Option Text
  | description => Option Text
  | type => Option Text
  | format => Option Text
  | properties => Option (Table Schema)
  | required => Option (List Text)
  | enumeration => Option (List Json)
  | items => Option Schema
  | readOnly => Bool
  | defaultValue => Json

/-- A schema with a value of a keyword. -/
def put (s : Schema) : (k : Keyword) → k.Value → Schema
  | .title, v => { s with title := v }
  | .description, v => { s with description := v }
  | .type, v => { s with type := v }
  | .format, v => { s with format := v }
  | .properties, v => { s with properties := v }
  | .required, v => { s with required := v }
  | .enumeration, v => { s with enumeration := v }
  | .items, v => { s with items := v }
  | .readOnly, v => { s with readOnly := v }
  | .defaultValue, v => { s with defaultValue := some v }

/-- **Values of two keywords** can be put in either order. -/
theorem put_comm {k l : Keyword} (h : k ≠ l) (s : Schema) (v : k.Value) (w : l.Value) :
    (s.put k v).put l w = (s.put l w).put k v := by
  cases k <;> cases l <;> first | rfl | exact absurd rfl h

/-- The canonical form of a value. -/
def Keyword.canonical : (k : Keyword) → k.Value → k.Value
  | properties => Option.map (List.map (Prod.map id Schema.canonical))
  | required => Option.map sortedDistinct
  | enumeration => Option.map canonicalValues
  | items => Option.map Schema.canonical
  | title => id
  | description => id
  | type => id
  | format => id
  | readOnly => id
  | defaultValue => id

theorem canonical_put (s : Schema) (k : Keyword) (v : k.Value) :
    (s.put k v).canonical = s.canonical.put k (k.canonical v) := by
  rw [canonical_eq, canonical_eq]
  cases k <;> rfl

/-! ## Readers of keywords -/

/-- Reads the value of a keyword. -/
def Keyword.reader (parts : PartReaders) : (k : Keyword) → Reader k.Value
  | title => optional textReader
  | description => optional textReader
  | type => optional textReader
  | format => optional textReader
  | properties => optional (tableReader parts.property)
  | required => optional (listReader parts.name)
  | enumeration => optional (listReader parts.enumValue)
  | items => optional parts.items
  | readOnly => boolReader
  | defaultValue => parts.value

theorem keywordReader_eq (parts : PartReaders) (k : Keyword) (s : Schema) (input : Text) :
    keywordReader parts k s input = (k.reader parts input).map (·.map (s.put k)) := by
  cases k <;> rfl

/-- The values of the parts of a schema that hold containers. -/
structure PartValues where
  value : Tree → Option Json
  enumValue : Option (Tree → Option Json)
  name : Option (Tree → Option Text)
  items : Tree → Option Schema
  property : Option (Tree → Option Schema)

/-- The canonical value of a keyword for a tree. -/
def Keyword.valueOf (parts : PartValues) : (k : Keyword) → Tree → Option k.Value
  | title => Tree.optionalOf Tree.text?
  | description => Tree.optionalOf Tree.text?
  | type => Tree.optionalOf Tree.text?
  | format => Tree.optionalOf Tree.text?
  | properties => Tree.optionalOf (Tree.tableOf parts.property)
  | required => Tree.optionalOf fun v => (Tree.listOf parts.name v).map sortedDistinct
  | enumeration => Tree.optionalOf fun v => (Tree.listOf parts.enumValue v).map canonicalValues
  | items => Tree.optionalOf parts.items
  | readOnly => Tree.bool?
  | defaultValue => parts.value

/-- Every part is read as the value that it has. -/
structure PartReaders.ReadsAs (parts : PartReaders) (values : PartValues) : Prop where
  value : Reads parts.value id values.value
  enumValue : Option.Rel (Reads · id ·) parts.enumValue values.enumValue
  name : Option.Rel (Reads · id ·) parts.name values.name
  items : Reads parts.items canonical values.items
  property : Option.Rel (Reads · canonical ·) parts.property values.property

/-- **Reading a keyword.** -/
theorem Keyword.reads {parts : PartReaders} {values : PartValues} (h : parts.ReadsAs values)
    (k : Keyword) : Reads (k.reader parts) k.canonical (k.valueOf values) := by
  have htext : Reads (optional textReader) (Option.map id) (Tree.optionalOf Tree.text?) :=
    reads_optional (reads_stringReader _)
  rw [Option.map_id] at htext
  cases k with
  | title | description | type | format => exact htext
  | properties => exact reads_optional (reads_tableReader h.property)
  | required =>
    have hlist := (reads_listReader h.name).map sortedDistinct
    rw [List.map_id_fun, Function.comp_id] at hlist
    exact reads_optional hlist
  | enumeration =>
    have hlist := (reads_listReader h.enumValue).map canonicalValues
    rw [List.map_id_fun, Function.comp_id] at hlist
    exact reads_optional hlist
  | items => exact reads_optional h.items
  | readOnly => exact reads_boolReader
  | defaultValue => exact h.value

/-- The record of the known keywords as a function of trees. -/
def treeRecord (values : PartValues) : TreeRecord Keyword Schema where
  fields := keywords
  key := Keyword.key
  field := fun k s v => (k.valueOf values v).map (s.put k)

theorem PartReaders.ReadsAs.record {parts : PartReaders} {values : PartValues}
    (h : parts.ReadsAs values) : (record parts).ReadsAs canonical (treeRecord values) where
  fields := rfl
  key := rfl
  lenient := rfl
  field := fun k s v x b rest hx hb hrest => by
    show outcome canonical (keywordReader parts k s _) = _
    rw [keywordReader_eq]
    exact outcome_of_map (Keyword.reads h k v x b rest hx hb hrest)
      (fun p => canonical_put s k p.value) fun _ => rfl

end Schema

/-! ## Levels -/

/-- The value of a tree whose containers are nested at most `levels` deep. -/
def Json.Tree.json : (levels : Nat) → Tree → Option Json
  | 0 => Tree.valueOf none
  | levels + 1 => Tree.valueOf (some (json levels))

theorem Json.reads_reader (levels : Nat) : Reads (Json.reader levels) id (Tree.json levels) := by
  induction levels with
  | zero => exact reads_valueReader .none
  | succ levels ih => exact reads_valueReader (.some ih)

namespace Schema

/-- The canonical schema of a tree whose parts have the given values. -/
def valueWith (values : Option PartValues) : Tree → Option Schema :=
  TreeRecord.valueOf (values.map treeRecord) {}

theorem reads_readerWith {parts : Option PartReaders} {values : Option PartValues}
    (h : Option.Rel PartReaders.ReadsAs parts values) :
    Reads (readerWith parts) canonical (valueWith values) := by
  cases h with
  | none => exact reads_record .none _ _
  | some h => exact reads_record (.some h.record) _ _

/-- The canonical schema of a tree whose containers are nested at most `levels` deep. -/
def ofTree : (levels : Nat) → Tree → Option Schema
  | 0 => valueWith none
  | 1 => valueWith (some ⟨Tree.json 0, none, none, ofTree 0, none⟩)
  | n + 2 => valueWith (some
      ⟨Tree.json (n + 1), some (Tree.json n), some Tree.text?, ofTree (n + 1), some (ofTree n)⟩)

/-- What the values of parts are at any level. -/
structure PartValues.AtLevel (values : PartValues) : Prop where
  value : ∃ n, values.value = Tree.json n
  enumValue : values.enumValue = none ∨ ∃ n, values.enumValue = some (Tree.json n)
  name : values.name = none ∨ values.name = some Tree.text?
  items : ∃ n, values.items = ofTree n
  property : values.property = none ∨ ∃ n, values.property = some (ofTree n)

theorem exists_ofTree_eq (n : Nat) :
    ∃ values, ofTree n = valueWith values ∧ ∀ v ∈ values, v.AtLevel :=
  match n with
  | 0 => ⟨none, rfl, nofun⟩
  | 1 => ⟨some _, rfl, by
    rintro _ ⟨⟩
    exact ⟨⟨0, rfl⟩, .inl rfl, .inl rfl, ⟨0, rfl⟩, .inl rfl⟩⟩
  | n + 2 => ⟨some _, rfl, by
    rintro _ ⟨⟩
    exact ⟨⟨n + 1, rfl⟩, .inr ⟨n, rfl⟩, .inr rfl, ⟨n + 1, rfl⟩, .inr ⟨n, rfl⟩⟩⟩

/-- **Reading a schema.** -/
theorem reads_reader (levels : Nat) : Reads (reader levels) canonical (ofTree levels) := by
  fun_induction reader levels with
  | case1 => exact reads_readerWith .none
  | case2 ih =>
    refine reads_readerWith (.some ?_)
    exact ⟨Json.reads_reader 0, .none, .none, ih, .none⟩
  | case3 n ih ih' =>
    refine reads_readerWith (.some ?_)
    exact ⟨Json.reads_reader (n + 1), .some (Json.reads_reader n), .some (reads_stringReader _), ih,
      .some ih'⟩

end Schema

/-! ## Documents -/

theorem Json.toOption_readDocument {α β : Type} {r : Reader α} {g : α → β} {f : Tree → Option β}
    (h : Reads r g f) {t : Tree} {text : Text} (ht : t.Document text) :
    (readDocument r text).toOption.map g = f t := by
  obtain ⟨b, x, c, hb, hx, hc, rfl⟩ := ht
  have hdelimited : Delimited c := by
    have := Delimited.append hc (t := []) nofun
    rwa [List.append_nil] at this
  have hvalue := h t x b c hx hb hdelimited
  unfold readDocument
  cases ht : f t with
  | none =>
    rw [ht] at hvalue
    obtain ⟨fault, hfault⟩ := exists_of_outcome_eq_none hvalue
    rw [hfault]
    rfl
  | some a =>
    rw [ht] at hvalue
    obtain ⟨p, hp, rfl, hrest⟩ := exists_of_outcome_eq_some hvalue
    have hnext : next? p.rest = none := by
      rw [hrest]
      exact next?_of_blanks hc
    simp only [bind, Except.bind, hp, hnext]
    rfl

/-- **The schema of a document** in canonical form depends on the tree alone. -/
theorem Schema.canonical_ofText {t : Tree} {text : Text} (h : t.Document text) :
    (Schema.ofText text).toOption.map canonical = ofTree nestingLimit t :=
  toOption_readDocument (reads_reader nestingLimit) h

end SchemaTypes
