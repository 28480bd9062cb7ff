import Mathlib
import SchemaTypes.Proofs.Declaration.Order

/-!
# Types behind those they refer to

The traversal leaves a name when it has been to all names that it refers to, so that a type stands
behind the types that it refers to unless they lead back to it.

* `Leads`: some references on, a name is come to.
* `Precedes`: in an order every name stands behind those that it refers to and that do not lead
  back.
* `Traversal.Covers`: where the names are while some of them have been entered and not yet left.
* `precedes_visit`: a visit keeps the order; the names entered and not yet left lead to all others
  that are visited.
* **`declarationOrder_topological`**: so does the order of the declarations.
-/

namespace SchemaTypes

/-! ## Orders -/

section Orders

variable (next : Text → List Text)

/-- From a name one comes to another, some references on. -/
abbrev Leads : Text → Text → Prop :=
  Relation.ReflTransGen fun name ref => ref ∈ next name

/-- Every name stands behind those of the known names that it refers to and that do not lead back
to it. -/
def Precedes (known : Text → Prop) (order : List Text) : Prop :=
  ∀ before name behind, order = before ++ name :: behind →
    ∀ ref ∈ next name, known ref → ¬Leads next ref name → ref ∈ before

variable {next} {known : Text → Prop}

theorem Precedes.nil : Precedes next known [] := by
  intro before name behind h
  exact absurd h.symm (by simp)

theorem Precedes.concat {order : List Text} (h : Precedes next known order) {name : Text}
    (hname : ∀ ref ∈ next name, known ref → ¬Leads next ref name → ref ∈ order) :
    Precedes next known (order ++ [name]) := by
  intro before user behind hsplit
  rcases concat_eq_append_cons_iff.mp hsplit with ⟨rfl, rfl, rfl⟩ | ⟨init, rfl, horder⟩
  · exact hname
  · exact h before user init horder

end Orders

/-! ## Visits -/

/-- Every known name waits, or it is entered and not yet left, or it has been left. -/
def Traversal.Covers (t : Traversal) (known : Text → Prop) (entered : List Text) : Prop :=
  ∀ name, known name → name ∈ t.waiting ∨ name ∈ entered ∨ name ∈ t.order

namespace Traversal.Covers

variable {t : Traversal} {known : Text → Prop} {entered : List Text}

theorem enter (h : t.Covers known entered) (name : Text) :
    (t.enter name).Covers known (name :: entered) := by
  intro n hn
  by_cases hname : n = name
  · exact .inr (.inl (hname ▸ List.mem_cons_self))
  · rcases h n hn with hw | he | ho
    · exact .inl ((List.mem_erase_of_ne hname).mpr hw)
    · exact .inr (.inl (List.mem_cons_of_mem name he))
    · exact .inr (.inr ho)

theorem leave {name : Text} (h : t.Covers known (name :: entered)) :
    (t.leave name).Covers known entered := by
  intro n hn
  rcases h n hn with hw | he | ho
  · exact .inl hw
  · rcases List.mem_cons.mp he with rfl | he
    · exact .inr (.inr (List.mem_append_right _ (List.mem_singleton_self _)))
    · exact .inr (.inl he)
  · exact .inr (.inr (List.mem_append_left _ ho))

end Traversal.Covers

/-- **A visit keeps the order**, if what has been entered and not yet left leads to all that is
visited. -/
theorem precedes_visit {next : Text → List Text} {known : Text → Prop} (names : List Text)
    (t : Traversal) (ht : t.waiting.Nodup) (entered : List Text)
    (hleads : ∀ e ∈ entered, ∀ n ∈ names, Leads next e n) (hcovers : t.Covers known entered)
    (hprecedes : Precedes next known t.order) :
    (visit next names t).val.Covers known entered ∧
      Precedes next known (visit next names t).val.order := by
  fun_induction visit next names t generalizing entered with
  | case1 t => exact ⟨hcovers, hprecedes⟩
  | case2 name names t h hlt inner outer ihi iho =>
    have hbelow : ∀ e ∈ name :: entered, ∀ n ∈ next name, Leads next e n := by
      intro e he n hn
      rcases List.mem_cons.mp he with rfl | he
      · exact .single hn
      · exact (hleads e he name List.mem_cons_self).tail hn
    obtain ⟨hinner, horder⟩ :=
      ihi (ht.erase name) (name :: entered) hbelow (hcovers.enter name) hprecedes
    have hdone := not_mem_waiting_visit next (next name) (t.enter name) (ht.erase name)
    have hname : ∀ ref ∈ next name, known ref → ¬Leads next ref name → ref ∈ inner.val.order := by
      intro ref href hknown hback
      rcases hinner ref hknown with hw | he | ho
      · exact absurd hw (hdone ref href)
      · -- what has been entered and not yet left leads back
        rcases List.mem_cons.mp he with rfl | he
        · exact absurd .refl hback
        · exact absurd (hleads ref he name List.mem_cons_self) hback
      · exact ho
    obtain ⟨left, hleft⟩ := exists_leaves_visit next (next name) (t.enter name)
    exact iho (hleft.nodup (ht.erase name)) entered
      (fun e he n hn => hleads e he n (List.mem_cons_of_mem name hn)) hinner.leave
      (horder.concat hname)
  | case3 name names t h ih =>
    exact ih ht entered (fun e he n hn => hleads e he n (List.mem_cons_of_mem name hn)) hcovers
      hprecedes

/-! ## References between types -/

/-- A type of a table has a property that refers to the name. -/
def RefersTo (types : Table TypeDeclaration) (user name : Text) : Prop :=
  ∃ t, (user, t) ∈ types ∧ ∃ p ∈ t.properties, p.type.reference = name

theorem mem_referencesOf_iff {types : Table TypeDeclaration} (h : (Table.keys types).Nodup)
    {user name : Text} : name ∈ referencesOf types user ↔ RefersTo types user name := by
  unfold referencesOf RefersTo
  constructor
  · intro hmem
    cases hget : Table.get? types user with
    | none =>
      rw [hget] at hmem
      exact absurd hmem List.not_mem_nil
    | some t =>
      rw [hget] at hmem
      exact ⟨t, Table.mem_of_get? hget, List.mem_map.mp hmem⟩
  · rintro ⟨t, ht, hp⟩
    rw [Table.get?_of_mem h ht]
    exact List.mem_map.mpr hp

/-- **The order of the declarations** has every type once, and each behind those that it refers to
and from which no references lead back to it. -/
theorem declarationOrder_topological {types : Table TypeDeclaration} (h : Table.Ascending types)
    {root : Text} (hroot : root ∈ Table.keys types) :
    (declarationOrder types root).Nodup ∧
      (declarationOrder types root).Perm (Table.keys types) ∧
      ∀ user name, RefersTo types user name → name ∈ Table.keys types →
        ¬Relation.ReflTransGen (RefersTo types) name user →
        ∃ before behind, declarationOrder types root = before ++ user :: behind ∧
          name ∈ before := by
  have hkeys := h.nodup_keys
  have hperm : (declarationOrder types root).Perm (Table.keys types) := by
    have := perm_declarationOrder hkeys root
    rwa [List.insert_of_mem hroot] at this
  refine ⟨hperm.nodup_iff.mpr hkeys, hperm, ?_⟩
  intro user name href hname hback
  have huser : user ∈ declarationOrder types root := by
    obtain ⟨t, ht, _⟩ := href
    exact hperm.mem_iff.mpr (List.mem_map_of_mem ht)
  obtain ⟨before, behind, hsplit⟩ := List.append_of_mem huser
  refine ⟨before, behind, hsplit, ?_⟩
  have hleads : Leads (referencesOf types) = Relation.ReflTransGen (RefersTo types) := by
    unfold Leads
    congr
    funext a b
    exact propext (mem_referencesOf_iff hkeys)
  have hcovers : (⟨(Table.keys types).insert root, []⟩ : Traversal).Covers
      (· ∈ Table.keys types) [] := fun n hn => .inl (List.mem_insert_of_mem hn)
  have hnil : Precedes (referencesOf types) (· ∈ Table.keys types) [] := .nil
  have hprecedes := (precedes_visit (root :: Table.keys types) _ hkeys.insert []
    (fun e he => absurd he List.not_mem_nil) hcovers hnil).2
  refine hprecedes before user behind hsplit name ((mem_referencesOf_iff hkeys).mpr href) hname ?_
  rwa [hleads]

/-! ## Types that refer to each other -/

/-- A property of a type, with nothing else said about it. -/
def plainProperty (key : Text) (type : TypeExpr) : Property :=
  ⟨key, type, false, false, none, none⟩

/-- Kennels and litters refer to each other and to pets, which refer to their parents. -/
def litterTypes : Table TypeDeclaration :=
  [("Kennel", ⟨"Kennel", [plainProperty "litter" (.named "Litter"),
      plainProperty "pets" (.array (.named "Pet"))], none⟩),
    ("Litter", ⟨"Litter", [plainProperty "kennel" (.named "Kennel"),
      plainProperty "pets" (.array (.array (.named "Pet")))], none⟩),
    ("Pet", ⟨"Pet", [plainProperty "parents" (.array (.named "Pet"))], none⟩)]

/-- Pets come first: no references lead from them to a kennel. -/
theorem pet_precedes_kennel :
    Table.Ascending litterTypes ∧ ("Kennel" : Text) ∈ Table.keys litterTypes ∧
      (declarationOrder litterTypes "Kennel").Perm (Table.keys litterTypes) ∧
      declarationOrder litterTypes "Kennel" =
        [("Pet" : Text), ("Litter" : Text), ("Kennel" : Text)] ∧
      ∃ before behind,
        declarationOrder litterTypes "Kennel" = before ++ ("Kennel" : Text) :: behind ∧
          ("Pet" : Text) ∈ before := by
  have hkeys : Table.keys litterTypes = ["Kennel".toList, "Litter".toList, "Pet".toList] := by
    cbv
  have hascending : Table.Ascending litterTypes := by
    unfold Table.Ascending
    rw [hkeys]
    decide
  have hkennel : ("Kennel" : Text) ∈ Table.keys litterTypes := List.mem_cons_self
  have hpet : ("Pet" : Text) ∈ Table.keys litterTypes :=
    List.mem_cons_of_mem _ (List.mem_cons_of_mem _ List.mem_cons_self)
  have hreferences : referencesOf litterTypes "Kennel" = [("Litter" : Text), ("Pet" : Text)] := by
    cbv
  have hparents : referencesOf litterTypes "Pet" = [("Pet" : Text)] := by
    cbv
  have hback : ¬Relation.ReflTransGen (RefersTo litterTypes) "Pet" "Kennel" := by
    intro hlead
    have hpets : ∀ name, Relation.ReflTransGen (RefersTo litterTypes) "Pet" name →
        name = ("Pet" : Text) := by
      intro name h
      induction h with
      | refl => rfl
      | @tail user name _ href ih =>
        rw [ih, ← mem_referencesOf_iff hascending.nodup_keys, hparents] at href
        exact List.mem_singleton.mp href
    have hne : ("Kennel" : Text) ≠ "Pet" := by
      rw [Text.ofString_eq, Text.ofString_eq]
      decide
    exact hne (hpets _ hlead)
  obtain ⟨_, hperm, hprecedes⟩ := declarationOrder_topological hascending hkennel
  have href : RefersTo litterTypes "Kennel" "Pet" := by
    rw [← mem_referencesOf_iff hascending.nodup_keys, hreferences]
    exact List.mem_cons_of_mem _ (List.mem_singleton_self _)
  exact ⟨hascending, hkennel, hperm, by cbv, hprecedes _ _ href hpet hback⟩

end SchemaTypes
