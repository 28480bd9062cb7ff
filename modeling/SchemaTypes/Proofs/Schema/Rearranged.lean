import SchemaTypes.Proofs.Json.Order
import SchemaTypes.Proofs.Schema.Reading

/-!
# Rearranged documents

Two trees are rearranged if they differ in the order of the members of objects, in members of
schemas that are no keywords, and in the order and the repetition of required keys and of the
values of enumerations. What counts as what depends on the place in the document.

* `Place`: what a value in a document is for; `Place.member`, `Place.item`: the values in it.
* `Rearranged`: trees at a place that are rearranged.
* `Agree`: trees that have the same values as what they are for.
* **`Rearranged.agree`**: rearranged trees do.
-/

namespace SchemaTypes

open Json

/-! ## Places -/

/-- What a value in a document is for. -/
inductive Place where
  | schema
  -- schemas under keys
  | properties
  -- a list of which only counts what is in it
  | choices
  | value
deriving DecidableEq, Repr

namespace Place

/-- What the value of a keyword is for. -/
def ofKeyword : Schema.Keyword → Place
  | .properties => properties
  | .required => choices
  | .enumeration => choices
  | .items => schema
  | .title | .description | .type | .format | .readOnly | .defaultValue => value

/-- What the value under a key of an object is for. -/
def member : Place → (key : Option Text) → Place
  | schema, some key => ((Schema.keyword? key).map ofKeyword).getD value
  | properties, _ => schema
  | _, _ => value

/-- What an item of a list is for. A schema may be written as the list of the values of its
keywords. -/
def item : Place → (position : Nat) → Place
  | schema, i => (Schema.keywords[i]?.map ofKeyword).getD value
  | _, _ => value

end Place

/-! ## Rearranged trees -/

/-- The trees differ in what does not count at the place. -/
inductive Rearranged : Place → Tree → Tree → Prop where
  | refl (p : Place) (v : Tree) : Rearranged p v v
  | symm {p : Place} {v w : Tree} (h : Rearranged p v w) : Rearranged p w v
  | trans {p : Place} {u v w : Tree} (h : Rearranged p u v) (h' : Rearranged p v w) :
      Rearranged p u w
  -- the order of members, none of which has the key of another one
  | order {p : Place} {ms ns : List (Literal × Tree)} (h : ms.Perm ns) (hkeys : DistinctKeys ms) :
      Rearranged p (.object ms) (.object ns)
  -- a member of a schema that is no keyword
  | unknown {k : Literal} {key : Text} (hkey : k.text? = some key)
      (h : Schema.keyword? key = none) (v : Tree) (ms ns : List (Literal × Tree)) :
      Rearranged .schema (.object (ms ++ (k, v) :: ns)) (.object (ms ++ ns))
  -- the order and the repetition of required keys or values of an enumeration
  | choices {vs ws : List Tree} (h : ∀ v, v ∈ vs ↔ v ∈ ws) :
      Rearranged .choices (.array vs) (.array ws)
  -- the same in an object or a list
  | member {p : Place} {k : Literal} {v w : Tree} (h : Rearranged (p.member k.text?) v w)
      (ms ns : List (Literal × Tree)) :
      Rearranged p (.object (ms ++ (k, v) :: ns)) (.object (ms ++ (k, w) :: ns))
  | item {p : Place} {us : List Tree} {v w : Tree} (h : Rearranged (p.item us.length) v w)
      (ws : List Tree) : Rearranged p (.array (us ++ v :: ws)) (.array (us ++ w :: ws))

namespace Rearranged

variable {p : Place} {v w : Tree}

theorem eq_of_containers {β : Type} {f : Tree → β} (harray : ∀ vs ws, f (.array vs) = f (.array ws))
    (hobject : ∀ ms ns, f (.object ms) = f (.object ns)) (h : Rearranged p v w) : f v = f w := by
  induction h with
  | refl => rfl
  | symm _ ih => exact ih.symm
  | trans _ _ ih ih' => exact ih.trans ih'
  | choices | item => exact harray _ _
  | order | unknown | member => exact hobject _ _

theorem text?_eq (h : Rearranged p v w) : v.text? = w.text? :=
  h.eq_of_containers (fun _ _ => rfl) fun _ _ => rfl

theorem bool?_eq (h : Rearranged p v w) : v.bool? = w.bool? :=
  h.eq_of_containers (fun _ _ => rfl) fun _ _ => rfl

theorem optionalOf_eq {β : Type} {f : Tree → Option β} (h : Rearranged p v w) (hf : f v = f w) :
    Tree.optionalOf f v = Tree.optionalOf f w := by
  have hnull : v.isNull = w.isNull := h.eq_of_containers (fun _ _ => rfl) fun _ _ => rfl
  unfold Tree.optionalOf
  rw [hnull, hf]

end Rearranged

/-! ## Values of rearranged trees -/

/-- The trees have the same value as what they are for, however deep containers may be nested. -/
def Agree : Place → Tree → Tree → Prop
  | .schema, v, w => ∀ n, Schema.ofTree n v = Schema.ofTree n w
  | .properties, v, w => ∀ n,
    Tree.tableOf (some (Schema.ofTree n)) v = Tree.tableOf (some (Schema.ofTree n)) w
  | .choices, v, w =>
    (∀ n, (Tree.listOf (some (Tree.json n)) v).map Schema.canonicalValues =
      (Tree.listOf (some (Tree.json n)) w).map Schema.canonicalValues) ∧
    (Tree.listOf (some Tree.text?) v).map sortedDistinct =
      (Tree.listOf (some Tree.text?) w).map sortedDistinct
  | .value, v, w => ∀ n, Tree.json n v = Tree.json n w

/-- Keywords have the same values for rearranged trees that agree. -/
theorem Rearranged.valueOf_eq {k : Schema.Keyword} {v w : Tree}
    (h : Rearranged (.ofKeyword k) v w) (ha : Agree (.ofKeyword k) v w)
    {values : Schema.PartValues} (hvalues : values.AtLevel) :
    k.valueOf values v = k.valueOf values w := by
  cases k with
  | title | description | type | format => exact h.optionalOf_eq h.text?_eq
  | properties =>
    refine h.optionalOf_eq ?_
    rcases hvalues.property with hnone | ⟨n, hn⟩
    · rw [hnone, Tree.tableOf_none, Tree.tableOf_none]
    · rw [hn]
      exact ha n
  | required =>
    have hlist : (Tree.listOf values.name v).map sortedDistinct =
        (Tree.listOf values.name w).map sortedDistinct := by
      rcases hvalues.name with hnone | hname
      · rw [hnone, Tree.listOf_none, Tree.listOf_none]
      · rw [hname]
        exact ha.2
    exact h.optionalOf_eq (f := fun v => (Tree.listOf values.name v).map sortedDistinct) hlist
  | enumeration =>
    have hlist : (Tree.listOf values.enumValue v).map Schema.canonicalValues =
        (Tree.listOf values.enumValue w).map Schema.canonicalValues := by
      rcases hvalues.enumValue with hnone | ⟨n, hn⟩
      · rw [hnone, Tree.listOf_none, Tree.listOf_none]
      · rw [hn]
        exact ha.1 n
    exact h.optionalOf_eq
      (f := fun v => (Tree.listOf values.enumValue v).map Schema.canonicalValues) hlist
  | items =>
    obtain ⟨n, hn⟩ := hvalues.items
    refine h.optionalOf_eq ?_
    rw [hn]
    exact ha n
  | readOnly => exact h.bool?_eq
  | defaultValue =>
    obtain ⟨n, hn⟩ := hvalues.value
    show values.value v = values.value w
    rw [hn]
    exact ha n

theorem ofTree_congr {v w : Tree} (hnone : Schema.valueWith none v = Schema.valueWith none w)
    (hsome : ∀ values : Schema.PartValues, values.AtLevel →
      Schema.valueWith (some values) v = Schema.valueWith (some values) w) (n : Nat) :
    Schema.ofTree n v = Schema.ofTree n w := by
  obtain ⟨values, hn, hlevel⟩ := Schema.exists_ofTree_eq n
  rw [hn]
  cases values with
  | none => exact hnone
  | some values => exact hsome values (hlevel values rfl)

theorem json_object_congr {ms ns : List (Literal × Tree)}
    (h : ∀ n, Json.tableOf (Tree.json n) ms = Json.tableOf (Tree.json n) ns) (n : Nat) :
    Tree.json n (.object ms) = Tree.json n (.object ns) := by
  cases n with
  | zero => rfl
  | succ n => exact congrArg (Option.map Json.object) (h n)

/-! ## One thing that does not count -/

section Steps

variable {ms ns : List (Literal × Tree)} {p : Place}

theorem field_comm (values : Schema.PartValues) (k l : Schema.Keyword) (hne : k ≠ l) (s : Schema)
    (v w : Tree) : ((Schema.treeRecord values).field k s v).bind
        ((Schema.treeRecord values).field l · w) =
      ((Schema.treeRecord values).field l s w).bind ((Schema.treeRecord values).field k · v) := by
  show ((k.valueOf values v).map (s.put k)).bind
      (fun s => (l.valueOf values w).map (s.put l)) =
    ((l.valueOf values w).map (s.put l)).bind fun s => (k.valueOf values v).map (s.put k)
  cases k.valueOf values v with
  | none => cases l.valueOf values w <;> rfl
  | some a =>
    cases l.valueOf values w with
    | none => rfl
    | some b => exact congrArg some (Schema.put_comm hne s a b)

theorem agree_of_perm (hperm : ms.Perm ns) (hkeys : DistinctKeys ms) :
    Agree p (.object ms) (.object ns) := by
  cases p with
  | schema =>
    exact ofTree_congr rfl fun values _ =>
      TreeRecord.valueOf_perm (field_comm values) hperm hkeys {}
  | properties => exact fun n => tableOf_perm hperm hkeys
  | choices => exact ⟨fun n => rfl, rfl⟩
  | value => exact json_object_congr fun n => tableOf_perm hperm hkeys

theorem agree_of_unknown {k : Literal} {key : Text} (hkey : k.text? = some key)
    (h : Schema.keyword? key = none) (v : Tree) (ms ns : List (Literal × Tree)) :
    Agree .schema (.object (ms ++ (k, v) :: ns)) (.object (ms ++ ns)) := by
  refine ofTree_congr rfl fun values _ => ?_
  refine congrArg (Option.map Prod.fst) (foldMembers_unknown hkey (fun s => ?_) ms ns _)
  unfold TreeRecord.member
  rw [show (Schema.treeRecord values).field? key = none from h]

theorem canonicalValues_congr {l m : List Json} (h : ∀ a, a ∈ l ↔ a ∈ m) :
    Schema.canonicalValues l = Schema.canonicalValues m := by
  have hstrings := map_mapM_congr (f := Json.string?)
    (g := fun texts => (sortedDistinct texts).map Json.string)
    (fun _ _ h => congrArg _ (sortedDistinct_congr h)) h
  have heq : ∀ values, Schema.canonicalValues values = ((values.mapM Json.string?).map
      fun texts => (sortedDistinct texts).map Json.string).getD [] := by
    intro values
    unfold Schema.canonicalValues
    cases values.mapM Json.string? <;> rfl
  rw [heq, heq, hstrings]

theorem agree_of_mem {vs ws : List Tree} (h : ∀ v, v ∈ vs ↔ v ∈ ws) :
    Agree .choices (.array vs) (.array ws) :=
  ⟨fun _ => map_mapM_congr (fun _ _ => canonicalValues_congr) h,
    map_mapM_congr (fun _ _ => sortedDistinct_congr) h⟩

end Steps

/-! ## Rearranged trees -/

theorem agree_member {p : Place} {k : Literal} {v w : Tree} (h : Rearranged (p.member k.text?) v w)
    (ha : Agree (p.member k.text?) v w) (ms ns : List (Literal × Tree)) :
    Agree p (.object (ms ++ (k, v) :: ns)) (.object (ms ++ (k, w) :: ns)) := by
  cases p with
  | schema =>
    refine ofTree_congr rfl fun values hvalues => ?_
    refine congrArg (Option.map Prod.fst) (foldMembers_congr (fun s key hkey => ?_) ms ns _)
    unfold TreeRecord.member
    cases hk : (Schema.treeRecord values).field? key with
    | none => rfl
    | some l =>
      have hplace : Place.member .schema k.text? = .ofKeyword l := by
        rw [Option.mem_def.mp hkey]
        show ((Schema.keyword? key).map Place.ofKeyword).getD _ = _
        rw [show Schema.keyword? key = some l from hk]
        rfl
      rw [hplace] at h ha
      show TreeRecord.give _ l v s = TreeRecord.give _ l w s
      unfold TreeRecord.give Schema.treeRecord
      simp only [h.valueOf_eq ha hvalues]
  | properties => exact fun n => tableOf_congr (ha n) ms ns
  | choices => exact ⟨fun n => rfl, rfl⟩
  | value => exact json_object_congr fun n => tableOf_congr (ha n) ms ns

theorem agree_item {p : Place} {us : List Tree} {v w : Tree} (h : Rearranged (p.item us.length) v w)
    (ha : Agree (p.item us.length) v w) (ws : List Tree) :
    Agree p (.array (us ++ v :: ws)) (.array (us ++ w :: ws)) := by
  cases p with
  | schema =>
    refine ofTree_congr rfl fun values hvalues => ?_
    refine TreeRecord.positional_congr ws Schema.keywords ({} : Schema) fun k hk s => ?_
    have hplace : Place.item .schema us.length = .ofKeyword k := by
      show (Schema.keywords[us.length]?.map Place.ofKeyword).getD _ = _
      rw [Option.mem_def.mp hk]
      rfl
    rw [hplace] at h ha
    exact congrArg (Option.map (s.put k)) (h.valueOf_eq ha hvalues)
  | properties => exact fun n => rfl
  | choices =>
    refine ⟨fun n => ?_, ?_⟩
    · exact congrArg (Option.map Schema.canonicalValues) (mapM_congr (ha n) us ws)
    · exact congrArg (Option.map sortedDistinct) (mapM_congr h.text?_eq us ws)
  | value =>
    intro n
    cases n with
    | zero => rfl
    | succ n => exact congrArg (Option.map Json.array) (mapM_congr (ha n) us ws)

theorem Agree.refl (p : Place) (v : Tree) : Agree p v v := by
  cases p with
  | schema | properties | value => exact fun n => rfl
  | choices => exact ⟨fun n => rfl, rfl⟩

theorem Agree.symm {p : Place} {v w : Tree} (h : Agree p v w) : Agree p w v := by
  cases p with
  | schema | properties | value => exact fun n => (h n).symm
  | choices => exact ⟨fun n => (h.1 n).symm, h.2.symm⟩

theorem Agree.trans {p : Place} {u v w : Tree} (h : Agree p u v) (h' : Agree p v w) :
    Agree p u w := by
  cases p with
  | schema | properties | value => exact fun n => (h n).trans (h' n)
  | choices => exact ⟨fun n => (h.1 n).trans (h'.1 n), h.2.trans h'.2⟩

/-- **Rearranged trees** have the same value as what they are for. -/
theorem Rearranged.agree {p : Place} {v w : Tree} (h : Rearranged p v w) : Agree p v w := by
  induction h with
  | refl p v => exact .refl p v
  | symm _ ih => exact ih.symm
  | trans _ _ ih ih' => exact ih.trans ih'
  | order h hkeys => exact agree_of_perm h hkeys
  | unknown hkey h v ms ns => exact agree_of_unknown hkey h v ms ns
  | choices h => exact agree_of_mem h
  | member h ms ns ih => exact agree_member h ih ms ns
  | item h ws ih => exact agree_item h ih ws

end SchemaTypes
