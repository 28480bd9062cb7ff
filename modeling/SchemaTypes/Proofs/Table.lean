import Mathlib.Data.List.Nodup
import Mathlib.Tactic.SplitIfs
import SchemaTypes.Table

/-!
# Entries of tables

* `concat_eq_append_cons_iff`: where an entry stands in a list that ends with another.
* `Table.mem_insert`, `Table.perm_insert`: the entries after an insertion.
* `Table.mem_of_get?`, `Table.get?_of_mem`: what is found is an entry, and is all there is.
* `Table.mem_values_iff`: so what is found under a name is the value of the name.
* **`Table.Ascending.insert`**: the keys of a table stay in order.
* `Table.insert_comm`: values under two keys are put in either order.
* `mem_sortedDistinct`, `sortedDistinct_congr`: the texts that are put in order.
-/

namespace SchemaTypes

theorem concat_eq_append_cons_iff {α : Type} {l before behind : List α} {a b : α} :
    l ++ [a] = before ++ b :: behind ↔
      before = l ∧ b = a ∧ behind = [] ∨
        ∃ init, behind = init ++ [a] ∧ l = before ++ b :: init := by
  constructor
  · intro h
    rcases List.eq_nil_or_concat behind with rfl | ⟨init, last, rfl⟩
    · obtain ⟨hl, ha⟩ := List.append_inj' h rfl
      exact .inl ⟨hl.symm, (List.cons.inj ha).1.symm, rfl⟩
    · have hsplit : l ++ [a] = (before ++ b :: init) ++ [last] := by
        rw [h, List.concat_eq_append, List.append_assoc, List.cons_append]
      obtain ⟨hl, ha⟩ := List.append_inj' hsplit rfl
      exact .inr ⟨init, by rw [(List.cons.inj ha).1, List.concat_eq_append], hl⟩
  · rintro (⟨rfl, rfl, rfl⟩ | ⟨init, rfl, rfl⟩)
    · rfl
    · rw [List.append_assoc, List.cons_append]

namespace Table

variable {α : Type}

/-- **An entry after an insertion** is the new one or was there before. -/
theorem mem_insert {key : Text} {value : α} {t : Table α} {e : Text × α}
    (h : e ∈ insert key value t) : e = (key, value) ∨ e ∈ t := by
  induction t with
  | nil => exact .inl (List.mem_singleton.mp h)
  | cons a t ih =>
    rw [insert] at h
    split at h
    · rcases List.mem_cons.mp h with h | h
      · exact .inl h
      · exact .inr h
    · split at h
      · rcases List.mem_cons.mp h with h | h
        · exact .inl h
        · exact .inr (List.mem_cons_of_mem _ h)
      · rcases List.mem_cons.mp h with h | h
        · exact .inr (h ▸ List.mem_cons_self)
        · exact (ih h).imp_right (List.mem_cons_of_mem _)

theorem insert_ne_nil (key : Text) (value : α) (t : Table α) : insert key value t ≠ [] := by
  cases t with
  | nil => exact List.cons_ne_nil _ _
  | cons e t =>
    rw [insert]
    split_ifs <;> exact List.cons_ne_nil _ _

theorem mem_of_get? {key : Text} {value : α} {t : Table α} (h : get? t key = some value) :
    (key, value) ∈ t := by
  obtain ⟨e, he, rfl⟩ := Option.map_eq_some_iff.mp h
  obtain rfl : e.1 = key := by simpa using List.find?_some he
  exact List.mem_of_find?_eq_some he

theorem get?_eq_none {key : Text} {t : Table α} (h : key ∉ keys t) : get? t key = none := by
  cases hget : get? t key with
  | none => rfl
  | some value => exact absurd (List.mem_map_of_mem (mem_of_get? hget)) h

/-- **A new key** adds an entry and takes none away. -/
theorem perm_insert {key : Text} {t : Table α} (h : key ∉ keys t) (value : α) :
    (insert key value t).Perm ((key, value) :: t) := by
  induction t with
  | nil => exact .rfl
  | cons e t ih =>
    have hne : key ≠ e.1 := fun he => h (by simp [keys, he])
    have ht : key ∉ keys t := fun hk => h (List.mem_cons_of_mem _ hk)
    rw [insert]
    split_ifs with hlt
    · exact .rfl
    · exact ((ih ht).cons e).trans (.swap _ _ _)

/-! ## Ascending keys -/

/-- The keys are in strictly ascending order. -/
def Ascending (t : Table α) : Prop :=
  (keys t).Pairwise (· < ·)

/-- **An insertion keeps the order of the keys.** -/
theorem Ascending.insert {t : Table α} (h : Ascending t) (key : Text) (value : α) :
    Ascending (insert key value t) := by
  unfold Ascending at *
  induction t with
  | nil => exact List.pairwise_singleton _ _
  | cons e t ih =>
    obtain ⟨he, ht⟩ := List.pairwise_cons.mp h
    rw [Table.insert]
    split_ifs with hlt heq
    · refine List.pairwise_cons.mpr ⟨?_, h⟩
      intro k hk
      rcases List.mem_cons.mp hk with rfl | hk
      · exact hlt
      · exact List.lt_trans hlt (he k hk)
    · subst heq
      exact h
    · refine List.pairwise_cons.mpr ⟨?_, ih ht⟩
      intro k hk
      rcases mem_keys_insert.mp hk with rfl | hk
      · have hle := List.le_iff_lt_or_eq.mp (List.not_lt.mp hlt)
        exact hle.resolve_right (Ne.symm heq)
      · exact he k hk

theorem Ascending.nodup_keys {t : Table α} (h : Ascending t) : (keys t).Nodup := by
  refine List.Pairwise.imp ?_ h
  rintro a _ hlt rfl
  exact List.lt_irrefl a hlt

/-- **What is under a key is found.** -/
theorem get?_of_mem {t : Table α} (h : (keys t).Nodup) {key : Text} {value : α}
    (he : (key, value) ∈ t) : get? t key = some value := by
  induction t with
  | nil => exact absurd he List.not_mem_nil
  | cons e t ih =>
    obtain ⟨hnew, ht⟩ := List.nodup_cons.mp h
    rw [get?_cons]
    rcases List.mem_cons.mp he with rfl | he
    · exact if_pos rfl
    · have hkey : key ∈ keys t := List.mem_map.mpr ⟨_, he, rfl⟩
      have hne : e.1 ≠ key := fun heq => hnew (heq ▸ hkey)
      rw [if_neg hne, ih ht he]

/-- **The value of a name** in a table whose values are under their names. -/
theorem mem_values_iff {nameOf : α → Text} {t : Table α} (h : Ascending t)
    (hname : ∀ e ∈ t, nameOf e.2 = e.1) {value : α} {name : Text} :
    (value ∈ values t ∧ nameOf value = name) ↔ get? t name = some value := by
  constructor
  · rintro ⟨hvalue, rfl⟩
    obtain ⟨e, he, rfl⟩ := List.mem_map.mp hvalue
    rw [hname e he]
    exact get?_of_mem h.nodup_keys he
  · intro hget
    have he := mem_of_get? hget
    exact ⟨List.mem_map_of_mem he, hname _ he⟩

/-! ## Two insertions -/

section Order

variable {k l : Text}

theorem insert_cons_of_lt {e : Text × α} (h : e.1 < k) (a : α) (t : Table α) :
    insert k a (e :: t) = e :: insert k a t := by
  have hne : k ≠ e.1 := by
    rintro rfl
    exact List.lt_irrefl _ h
  rw [insert, if_neg fun hlt => List.lt_irrefl _ (List.lt_trans h hlt), if_neg hne]

theorem insert_comm_of_lt (hlt : k < l) (a b : α) (t : Table α) :
    insert k a (insert l b t) = insert l b (insert k a t) := by
  induction t with
  | nil =>
    rw [insert.eq_1 k, insert_cons_of_lt (e := (k, a)) hlt]
    exact if_pos hlt
  | cons e t ih =>
    rcases Std.lt_trichotomy k e.1 with h | h | h
    · rw [insert.eq_2 k a e, if_pos h, insert_cons_of_lt (e := (k, a)) hlt, insert.eq_2 l]
      split_ifs
      · exact if_pos hlt
      · exact if_pos hlt
      · exact if_pos h
    · have hl : e.1 < l := h ▸ hlt
      have hk : ∀ t : Table α, insert k a (e :: t) = (k, a) :: t := by
        intro t
        rw [insert, if_neg (h ▸ List.lt_irrefl k), if_pos h]
      rw [insert_cons_of_lt hl, hk, hk, insert_cons_of_lt (e := (k, a)) hlt]
    · have hl : e.1 < l := List.lt_trans h hlt
      rw [insert_cons_of_lt h, insert_cons_of_lt hl, insert_cons_of_lt hl, insert_cons_of_lt h, ih]

/-- **Values under two keys** are put into a table in either order. -/
theorem insert_comm (h : k ≠ l) (a b : α) (t : Table α) :
    insert k a (insert l b t) = insert l b (insert k a t) := by
  rcases Std.lt_trichotomy k l with hlt | heq | hlt
  · exact insert_comm_of_lt hlt a b t
  · exact absurd heq h
  · exact (insert_comm_of_lt hlt b a t).symm

end Order

theorem map_insert {β : Type} (g : α → β) (key : Text) (a : α) (t : Table α) :
    (insert key a t).map (Prod.map id g) = insert key (g a) (t.map (Prod.map id g)) := by
  induction t with
  | nil => rfl
  | cons e t ih =>
    rw [insert, List.map_cons, insert]
    show _ = if key < e.1 then _ else if key = e.1 then _ else _
    split_ifs
    · rfl
    · rfl
    · rw [List.map_cons, ih]

end Table

/-! ## Texts in order -/

theorem mem_insertDistinct {t u : Text} {ts : List Text} :
    u ∈ insertDistinct t ts ↔ u = t ∨ u ∈ ts := by
  induction ts with
  | nil => exact List.mem_cons
  | cons a ts ih =>
    rw [insertDistinct]
    split_ifs with hlt heq
    · exact List.mem_cons
    · subst heq
      rw [List.mem_cons]
      exact ⟨.inr, fun h => h.elim .inl id⟩
    · rw [List.mem_cons, List.mem_cons, ih]
      exact or_left_comm

/-- **Putting texts in order** takes none away and adds none. -/
theorem mem_sortedDistinct {u : Text} {ts : List Text} : u ∈ sortedDistinct ts ↔ u ∈ ts := by
  induction ts with
  | nil => exact Iff.rfl
  | cons t ts ih =>
    show u ∈ insertDistinct t (sortedDistinct ts) ↔ _
    rw [mem_insertDistinct, ih, List.mem_cons]

theorem pairwise_insertDistinct (t : Text) {ts : List Text} (h : ts.Pairwise (· < ·)) :
    (insertDistinct t ts).Pairwise (· < ·) := by
  induction ts with
  | nil => exact List.pairwise_singleton _ _
  | cons u ts ih =>
    obtain ⟨hu, hts⟩ := List.pairwise_cons.mp h
    rw [insertDistinct]
    split_ifs with hlt heq
    · refine List.pairwise_cons.mpr ⟨?_, h⟩
      intro a ha
      rcases List.mem_cons.mp ha with rfl | ha
      · exact hlt
      · exact List.lt_trans hlt (hu a ha)
    · exact h
    · refine List.pairwise_cons.mpr ⟨?_, ih hts⟩
      intro a ha
      rcases mem_insertDistinct.mp ha with rfl | ha
      · exact (List.le_iff_lt_or_eq.mp (List.not_lt.mp hlt)).resolve_right (Ne.symm heq)
      · exact hu a ha

theorem pairwise_sortedDistinct (ts : List Text) : (sortedDistinct ts).Pairwise (· < ·) := by
  induction ts with
  | nil => exact .nil
  | cons t ts ih => exact pairwise_insertDistinct t ih

theorem nodup_sortedDistinct (ts : List Text) : (sortedDistinct ts).Nodup := by
  refine (pairwise_sortedDistinct ts).imp ?_
  rintro a _ hlt rfl
  exact List.lt_irrefl a hlt

/-- **Lists of the same texts** are put in the same order. -/
theorem sortedDistinct_congr {ts us : List Text} (h : ∀ t, t ∈ ts ↔ t ∈ us) :
    sortedDistinct ts = sortedDistinct us := by
  have hperm : (sortedDistinct ts).Perm (sortedDistinct us) :=
    (List.perm_ext_iff_of_nodup (nodup_sortedDistinct ts) (nodup_sortedDistinct us)).mpr
      fun t => by rw [mem_sortedDistinct, mem_sortedDistinct, h]
  exact hperm.eq_of_pairwise (fun a b _ _ hab hba => absurd (List.lt_trans hab hba)
    (List.lt_irrefl a)) (pairwise_sortedDistinct ts) (pairwise_sortedDistinct us)

theorem sortedDistinct_sortedDistinct (ts : List Text) :
    sortedDistinct (sortedDistinct ts) = sortedDistinct ts :=
  sortedDistinct_congr fun _ => mem_sortedDistinct

end SchemaTypes
