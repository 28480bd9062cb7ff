import SchemaTypes.Proofs.Json.Reading

/-!
# Readers of known shapes

A reader that expects a string, a list or a table is a function of trees, too: trees of another
shape have no value for it.

* `outcome_expecting`: what a reader does that looks at the first character.
* `Tree.text?`, `Tree.bool?`, `Tree.optionalOf`, `Tree.listOf`, `Tree.tableOf`: the values.
* **`reads_stringReader`**, **`reads_boolReader`**, **`reads_optional`**, **`reads_listReader`**,
  **`reads_tableReader`**: the readers.
-/

namespace SchemaTypes.Json

variable {α β : Type}

/-! ## Values -/

namespace Tree

/-- The text of a string. -/
def text? : Tree → Option Text
  | string l => l.text?
  | _ => none

/-- A truth value. -/
def bool? : Tree → Option Bool
  | bool b => some b
  | _ => none

/-- Is the value `null`? -/
def isNull : Tree → Bool
  | null => true
  | _ => false

/-- A value that may be `null`. -/
def optionalOf (f : Tree → Option β) (v : Tree) : Option (Option β) :=
  if v.isNull then some none else (f v).map some

/-- The values of items; without a function for them no list has a value. -/
def listOf (f : Option (Tree → Option β)) : Tree → Option (List β)
  | array vs => f.bind fun f => vs.mapM f
  | _ => none

/-- The values under keys; without a function for them no object has a value. -/
def tableOf (f : Option (Tree → Option β)) : Tree → Option (Table β)
  | object ms => f.bind fun f => Json.tableOf f ms
  | _ => none

theorem listOf_none (v : Tree) : listOf (none : Option (Tree → Option β)) v = none := by
  cases v <;> rfl

theorem tableOf_none (v : Tree) : tableOf (none : Option (Tree → Option β)) v = none := by
  cases v <;> rfl

end Tree

/-! ## Readers -/

theorem outcome_expecting {expected : Text}
    {value? : {n : Nat} → (p : Parsed Char n) →
      Option (Except Fault (Parsed α (p.rest.length + 1)))}
    (g : α → β) {input : Text} {p : Parsed Char input.length} (hnext : next? input = some p) :
    outcome g (expecting expected value? input) = (value? p).bind (outcome g) := by
  unfold expecting
  rw [hnext]
  dsimp only
  cases value? p with
  | none => rfl
  | some e => cases e <;> rfl

theorem reads_stringReader (expected : Text) :
    Reads (stringReader expected) id Tree.text? := by
  intro v x b rest hx hb hrest
  obtain ⟨c, t, hs, rfl, hc, hnext⟩ := next?_written hb rest hx
  unfold stringReader
  rw [outcome_expecting id hnext]
  simp only [hc.eq_iff (d := '"') rfl]
  cases v with
  | string l =>
    have hread := outcome_of_map (g := id) (k := id) (f := Parsed.succ) (outcome_string hx rest)
      (fun _ => rfl) fun _ => rfl
    rw [Option.map_id] at hread
    exact hread
  | bool b => cases b <;> rfl
  | _ => rfl

theorem reads_boolReader : Reads boolReader id Tree.bool? := by
  intro v x b rest hx hb hrest
  obtain ⟨c, t, hs, rfl, hc, hnext⟩ := next?_written hb rest hx
  unfold boolReader
  rw [outcome_expecting id hnext]
  simp only [hc.eq_iff (d := 't') rfl, hc.eq_iff (d := 'f') rfl]
  cases v with
  | bool b =>
    cases b with
    | true =>
      obtain rfl := hc
      exact outcome_of_map (k := fun _ => true) (outcome_word "rue" hx (by cbv) rest)
        (fun _ => rfl) fun _ => rfl
    | false =>
      obtain rfl := hc
      exact outcome_of_map (k := fun _ => false) (outcome_word "alse" hx (by cbv) rest)
        (fun _ => rfl) fun _ => rfl
  | _ => rfl

theorem reads_optional {r : Reader α} {g : α → β} {f : Tree → Option β} (h : Reads r g f) :
    Reads (optional r) (Option.map g) (Tree.optionalOf f) := by
  intro v x b rest hx hb hrest
  have hvalue := outcome_of_map (g := Option.map g) (k := some) (f := Parsed.map some)
    (h v x b rest hx hb hrest) (fun _ => rfl) fun _ => rfl
  obtain ⟨c, t, hs, rfl, hc, hnext⟩ := next?_written hb rest hx
  unfold optional
  rw [hnext]
  simp only [hc.eq_iff (d := 'n') rfl]
  cases v with
  | null =>
    obtain rfl := hc
    exact outcome_of_map (k := fun _ => none) (outcome_word "ull" hx (by cbv) rest)
      (fun _ => rfl) fun _ => rfl
  | bool b => cases b <;> exact hvalue
  | _ => exact hvalue

/-- **Reading a list.** -/
theorem reads_listReader {item : Option (Reader α)} {g : α → β} {f : Option (Tree → Option β)}
    (h : Option.Rel (Reads · g ·) item f) :
    Reads (listReader item) (List.map g) (Tree.listOf f) := by
  intro v x b rest hx hb hrest
  obtain ⟨c, t, hs, rfl, hc, hnext⟩ := next?_written hb rest hx
  unfold listReader
  rw [outcome_expecting _ hnext]
  simp only [hc.eq_iff (d := '[') rfl]
  cases v with
  | array vs =>
    cases h with
    | none => rfl
    | some h =>
      obtain ⟨t', ht, hlist⟩ := outcome_listBody h hx rest
      obtain rfl := (List.cons.inj ht).2
      exact hlist
  | bool b => cases b <;> rfl
  | _ => rfl

/-- **Reading a table.** -/
theorem reads_tableReader {value : Option (Reader α)} {g : α → β} {f : Option (Tree → Option β)}
    (h : Option.Rel (Reads · g ·) value f) :
    Reads (tableReader value) (List.map (Prod.map id g)) (Tree.tableOf f) := by
  intro v x b rest hx hb hrest
  obtain ⟨c, t, hs, rfl, hc, hnext⟩ := next?_written hb rest hx
  unfold tableReader
  rw [outcome_expecting _ hnext]
  simp only [hc.eq_iff (d := '\x7b') rfl]
  cases v with
  | object ms =>
    cases h with
    | none => rfl
    | some h =>
      obtain ⟨t', ht, htable⟩ := outcome_tableBody h hx rest
      obtain rfl := (List.cons.inj ht).2
      exact htable
  | bool b => cases b <;> rfl
  | _ => rfl

end SchemaTypes.Json
