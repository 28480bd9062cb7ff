import SchemaTypes.Json.Record
import SchemaTypes.Proofs.Json.Shapes
import SchemaTypes.Proofs.Json.Skipping

/-!
# Reading records

A record without the check for unknown fields is a function of trees: of the members of an object,
whose fields may stand in any order, or of the items of a list, which are the fields in theirs.

* `TreeRecord`: the values of the fields of a record; `TreeRecord.valueOf`: its value.
* `Record.ReadsAs`: every field is read as the value that it has.
* **`reads_record`**: so is the record.
-/

namespace SchemaTypes.Json

variable {κ σ τ : Type}

/-! ## Values -/

/-- The fields `κ` of a record with values in `τ`, as functions of trees. -/
structure TreeRecord (κ τ : Type) where
  fields : List κ
  key : κ → Text
  field : κ → τ → Tree → Option τ

namespace TreeRecord

variable [DecidableEq κ]

/-- What a field does to a record with the fields that have been given so far. -/
def give (r : TreeRecord κ τ) (k : κ) (v : Tree) (s : τ × Finset κ) : Option (τ × Finset κ) :=
  if k ∈ s.2 then none else (r.field k s.1 v).map (·, insert k s.2)

/-- The field with the key. -/
def field? (r : TreeRecord κ τ) (key : Text) : Option κ :=
  r.fields.find? fun k => r.key k = key

/-- What a member does to a record; nothing if it is no field. -/
def member (r : TreeRecord κ τ) (s : τ × Finset κ) (key : Text) (v : Tree) :
    Option (τ × Finset κ) :=
  match r.field? key with
  | some k => r.give k v s
  | none => some s

/-- What the items of a list do to a record. -/
def positional (r : TreeRecord κ τ) : τ → List κ → List Tree → Option τ
  | s, _, [] => some s
  | _, [], _ :: _ => none
  | s, k :: ks, v :: vs => (r.field k s v).bind (positional r · ks vs)

/-- The value of a record, starting from the record whose fields all are absent. -/
def valueOf (r : Option (TreeRecord κ τ)) (start : τ) : Tree → Option τ
  | .object ms => r.bind fun r => (foldMembers r.member (start, ∅) ms).map Prod.fst
  | .array vs => r.bind fun r => r.positional start r.fields vs
  | _ => none

end TreeRecord

/-- Every field is read as the value that it has, and no member and no list is refused for the
fields that it gives. -/
structure Record.ReadsAs (r : Record κ σ) (g : σ → τ) (s : TreeRecord κ τ) : Prop where
  fields : r.fields = s.fields
  key : r.key = s.key
  lenient : r.strict = none
  field : ∀ k a, Reads (r.field k a) g (s.field k (g a))

variable {r : Record κ σ} {g : σ → τ} {s : TreeRecord κ τ}

/-! ## Lists -/

/-- The fields from some field on, and the end of the list. -/
def Record.outcomeUpToEnd (r : Record κ σ) (g : σ → τ) (count : Nat) (a : σ) (ks : List κ)
    (input : Text) : Option (τ × Text) :=
  (outcome g (r.positional count a ks input)).bind fun p =>
    (outcome id (listEnd p.2)).map fun e => (p.1, e.2)

theorem outcome_listBody_eq (start : σ) (input : Text) :
    outcome g (Record.listBody start r input) = r.outcomeUpToEnd g 0 start r.fields input := by
  refine outcome_bind_eq fun p => ?_
  cases listEnd p.rest <;> rfl

theorem upToEnd_of_ahead {count : Nat} {input t : Text} {hle : t.length ≤ input.length}
    (hahead : itemAhead (count = 0) input = .ok (some ⟨t, hle⟩)) (a : σ) (k : κ) (ks : List κ) :
    r.outcomeUpToEnd g count a (k :: ks) input =
      (outcome id (r.field k a t)).bind fun v => r.outcomeUpToEnd g (count + 1) v.1 ks v.2 := by
  have hitem : outcome g (r.positional count a (k :: ks) input) =
      (outcome id (r.field k a t)).bind fun v =>
        outcome g (r.positional (count + 1) v.1 ks v.2) := by
    refine (outcome_bind g (x := itemAhead (count = 0) input) hahead).trans
      (outcome_bind_eq fun v => ?_)
    dsimp only [id]
    cases r.positional (count + 1) v.value ks v.rest <;> rfl
  unfold Record.outcomeUpToEnd
  rw [hitem, Option.bind_assoc]

theorem upToEnd_excess {b : Text} (hb : Blanks b) {c : Char} (hblank : isBlank c = false)
    (hend : c ≠ ']') (count : Nat) (a : σ) (t : Text) :
    r.outcomeUpToEnd g count a [] (b ++ c :: t) = none := by
  obtain ⟨h, hnext⟩ := next?_append hb hblank t
  have hlist : ∃ fault, listEnd (b ++ c :: t) = .error fault := by
    rw [listEnd, hnext]
    simp only [if_neg hend]
    split
    · cases next? t <;> exact ⟨_, rfl⟩
    · exact ⟨_, rfl⟩
  obtain ⟨fault, hfault⟩ := hlist
  show ((outcome id (listEnd (b ++ c :: t))).map fun e => (g a, e.2)) = none
  rw [hfault]
  rfl

section Items

variable (h : r.ReadsAs g s)

include h

theorem upToEnd_end {b : Text} (hb : Blanks b) (count : Nat) (a : σ) (ks : List κ)
    (rest : Text) : r.outcomeUpToEnd g count a ks (b ++ ']' :: rest) = some (g a, rest) := by
  have hpositional : outcome g (r.positional count a ks (b ++ ']' :: rest)) =
      some (g a, b ++ ']' :: rest) := by
    cases ks with
    | nil => rfl
    | cons k ks =>
      refine (outcome_bind g (x := itemAhead (count = 0) _) (itemAhead_end hb _ rest)).trans ?_
      dsimp only
      rw [h.lenient]
      rfl
  unfold Record.outcomeUpToEnd
  rw [hpositional, Option.bind, outcome_listEnd hb]
  rfl

theorem upToEnd_item {count : Nat} {input t : Text} {hle : t.length ≤ input.length} {first : Bool}
    (hfirst : decide (count = 0) = first) (hahead : itemAhead first input = .ok (some ⟨t, hle⟩))
    {v : Tree} {x e : Text} (hx : v.Written x) (he : Delimited e) (ht : t = x ++ e) (a : σ) (k : κ)
    (ks : List κ) {vs : List Tree} {rest : Text}
    (hnext : ∀ a, r.outcomeUpToEnd g (count + 1) a ks e =
      (s.positional (g a) ks vs).map fun a => (a, rest)) :
    r.outcomeUpToEnd g count a (k :: ks) input =
      (s.positional (g a) (k :: ks) (v :: vs)).map fun a => (a, rest) := by
  subst ht
  have hvalue := h.field k a v x [] e hx .nil he
  rw [List.nil_append] at hvalue
  rw [upToEnd_of_ahead (show itemAhead (count = 0) input = _ from hfirst ▸ hahead),
    TreeRecord.positional]
  cases hv : s.field k (g a) v with
  | none =>
    rw [hv] at hvalue
    obtain ⟨fault, hfault⟩ := exists_of_outcome_eq_none hvalue
    rw [hfault]
    rfl
  | some w =>
    rw [hv] at hvalue
    obtain ⟨p, hp, rfl, hrest⟩ := exists_of_outcome_eq_some hvalue
    rw [hp, outcome_ok, hrest]
    exact hnext p.value

theorem upToEnd_items (rest : Text) : ∀ {vs : List Tree} {y b : Text},
    WrittenItems vs y → Blanks b → ∀ (count : Nat) (a : σ) (ks : List κ),
      r.outcomeUpToEnd g (count + 1) a ks (b ++ (y ++ rest)) =
        (s.positional (g a) ks vs).map fun a => (a, rest) := by
  intro vs
  induction vs with
  | nil =>
    rintro _ b rfl hb count a ks
    rw [List.singleton_append, upToEnd_end h hb]
    cases ks <;> rfl
  | cons v vs ih =>
    rintro _ b ⟨d, x, e, z, hd, hx, he, hz, rfl⟩ hb count a ks
    have htext : b ++ (',' :: (d ++ (x ++ (e ++ z))) ++ rest) =
        b ++ ',' :: (d ++ (x ++ (e ++ (z ++ rest)))) := by
      simp
    rw [htext]
    cases ks with
    | nil => exact upToEnd_excess hb (by decide) (by decide) _ a _
    | cons k ks =>
      obtain ⟨hle, hahead⟩ := itemAhead_comma hb hd hx (e ++ (z ++ rest))
      exact upToEnd_item h (by simp) hahead hx (.append he (delimited_writtenItems hz)) rfl a k ks
        fun a => ih hz he _ a ks

theorem outcome_recordList {vs : List Tree} {x : Text} (hx : (Tree.array vs).Written x) (start : σ)
    (rest : Text) : ∃ t, x = '[' :: t ∧
      outcome g (Record.listBody start r (t ++ rest)) =
        (s.positional (g start) s.fields vs).map fun a => (a, rest) := by
  cases vs with
  | nil =>
    obtain ⟨b, hb, rfl⟩ := hx
    refine ⟨_, rfl, ?_⟩
    rw [outcome_listBody_eq, List.append_assoc, List.singleton_append, upToEnd_end h hb]
    cases s.fields <;> rfl
  | cons v vs =>
    obtain ⟨b, y, d, z, hb, hy, hd, hz, rfl⟩ := hx
    have htext : b ++ (y ++ (d ++ z)) ++ rest = b ++ (y ++ (d ++ (z ++ rest))) := by
      simp
    refine ⟨_, rfl, ?_⟩
    rw [outcome_listBody_eq, htext, h.fields]
    cases s.fields with
    | nil =>
      obtain ⟨c, y, rfl, hc⟩ := hy.exists_begin
      obtain ⟨hblank, hend, _, _⟩ := hc.not_delimiter
      exact upToEnd_excess hb hblank hend 0 start _
    | cons k ks =>
      obtain ⟨hle, hahead⟩ := itemAhead_first hb hy (d ++ (z ++ rest))
      exact upToEnd_item h (by simp) hahead hy (.append hd (delimited_writtenItems hz)) rfl start k
        ks fun a => upToEnd_items h rest hz hd 0 a ks

end Items

/-! ## Objects -/

section Members

variable [DecidableEq κ] (h : r.ReadsAs g s)

include h

theorem readsMembers_record :
    ReadsMembers r.member (Prod.map g List.toFinset) s.member := by
  rintro ⟨a, given⟩ key
  unfold Record.member TreeRecord.member TreeRecord.field?
  dsimp only
  rw [h.fields, h.key, h.lenient]
  cases s.fields.find? fun k => s.key k = key with
  | none =>
    intro v x b rest hx hb hrest
    exact outcome_of_map (k := fun _ => (g a, given.toFinset))
      (reads_skipValue v x b rest hx hb hrest) (fun _ => rfl) fun _ => rfl
  | some k =>
    dsimp only [Prod.map, TreeRecord.give]
    simp only [List.mem_toFinset]
    split_ifs with hgiven
    · exact fun _ => rfl
    · intro v x b rest hx hb hrest
      refine outcome_of_map (h.field k a v x b rest hx hb hrest) (fun _ => ?_) fun _ => rfl
      exact Prod.ext rfl List.toFinset_cons

theorem outcome_recordObject {ms : List (Literal × Tree)} {x : Text}
    (hx : (Tree.object ms).Written x) (start : σ) (rest : Text) : ∃ t, x = '\x7b' :: t ∧
      outcome g (r.objectBody start (t ++ rest)) =
        ((foldMembers s.member (g start, ∅) ms).map Prod.fst).map fun a => (a, rest) := by
  obtain ⟨t, rfl, hbody⟩ := outcome_membersBody (readsMembers_record h) hx rest
  exact ⟨t, rfl, outcome_of_map (hbody (start, [])) (fun _ => rfl) fun _ => rfl⟩

end Members

/-! ## Records -/

/-- **Reading a record** in either form. -/
theorem reads_record [DecidableEq κ] {r : Option (Record κ σ)} {s : Option (TreeRecord κ τ)}
    (h : Option.Rel (Record.ReadsAs · g ·) r s) (expected : Text) (start : σ) :
    Reads (Record.reader expected start r) g (TreeRecord.valueOf s (g start)) := by
  intro v x b rest hx hb hrest
  obtain ⟨c, t, hs, rfl, hc, hnext⟩ := next?_written hb rest hx
  unfold Record.reader
  rw [outcome_expecting _ hnext]
  simp only [hc.eq_iff (d := '\x7b') rfl, hc.eq_iff (d := '[') rfl]
  cases v with
  | object ms =>
    cases h with
    | none => rfl
    | some h =>
      obtain ⟨t', ht, hbody⟩ := outcome_recordObject h hx start rest
      obtain rfl := (List.cons.inj ht).2
      exact hbody
  | array vs =>
    cases h with
    | none => rfl
    | some h =>
      obtain ⟨t', ht, hbody⟩ := outcome_recordList h hx start rest
      obtain rfl := (List.cons.inj ht).2
      exact hbody
  | bool b => cases b <;> rfl
  | _ => rfl

end SchemaTypes.Json
