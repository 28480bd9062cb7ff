import Mathlib.Data.List.Nodup
import Mathlib.Data.List.TakeWhile
import Mathlib.Tactic.SplitIfs
import SchemaTypes.Proofs.Table
import SchemaTypes.Proofs.Text.Names

/-!
# Names of members

Values whose names would be equal are numbered in their order. An underscore stands before the
number, and in no name before it is numbered, so the name of a member tells whether it has a number
and which one.

* `numberedName`: a name with a number.
* `numbered_inj`: the number and the name can be told from it.
* `map_name_filter_enumMembersFrom`: the names of the values that share one.
* `nodup_names_enumMembers`: no two members have one name.
* **`enumMembers_named`**: the members of an enumeration, their values and their names.
-/

namespace SchemaTypes

/-! ## Numbers -/

/-- A name that others share, with its number among them. -/
def numberedName (name : Text) (number : Nat) : Text :=
  name ++ '_' :: Text.decimal number

theorem decimal_injective {m n : Nat} (h : Text.decimal m = Text.decimal n) : m = n := by
  unfold Text.decimal at h
  rw [← Nat.ofDigitChars_ten_toDigits (n := m), h, Nat.ofDigitChars_ten_toDigits]

theorem takeWhile_append_underscore {name : Text} (h : '_' ∉ name) (t : Text) :
    (name ++ '_' :: t).takeWhile (· ≠ '_') = name := by
  have hname : ∀ c ∈ name, decide (c ≠ '_') = true :=
    fun c hc => decide_eq_true fun heq => h (heq ▸ hc)
  rw [List.takeWhile_append_of_pos hname, List.takeWhile_cons_of_neg (by simp), List.append_nil]

/-- **Numbers are told apart** behind one name. -/
theorem numbered_inj {name : Text} {m n : Nat} (h : numberedName name m = numberedName name n) :
    m = n :=
  decimal_injective (List.cons.inj (List.append_cancel_left h)).2

/-! ## Values that share a name -/

theorem distinctName_of_shared {before after : List Text} {name : Text}
    (h : name ∈ before ∨ name ∈ after) :
    distinctName before name after = numberedName name (before.count name) := by
  unfold distinctName
  rw [if_pos (by simpa using h)]
  rfl

theorem distinctName_of_single {before after : List Text} {name : Text} (hbefore : name ∉ before)
    (hafter : name ∉ after) : distinctName before name after = name := by
  unfold distinctName
  rw [if_neg (by simp [hbefore, hafter])]

/-- The names for some values that would all have one name, of which so many are counted before. -/
def sharedNames (before : Nat) (name : Text) (values : Nat) : List Text :=
  if before = 0 ∧ values = 1 then [name]
  else (List.range' before values).map (numberedName name)

/-- **The values that share a name** have it with their numbers; a value that shares it with no
other has it as it is. -/
theorem map_name_filter_enumMembersFrom (before values : List Text) (name : Text) :
    ((enumMembersFrom before values).filter fun m => memberName m.value = name).map
        EnumMember.name =
      sharedNames (before.count name) name ((values.map memberName).count name) := by
  induction values generalizing before with
  | nil => simp [enumMembersFrom, sharedNames]
  | cons v vs ih =>
    rw [enumMembersFrom, List.map_cons, List.filter_cons]
    dsimp only
    by_cases hv : memberName v = name
    · rw [if_pos (decide_eq_true hv), List.map_cons, ih, hv, List.count_cons_self,
        List.count_cons_self]
      unfold sharedNames
      rw [if_neg (fun h => absurd h.1 (Nat.succ_ne_zero _))]
      dsimp only
      by_cases hshared : name ∈ before ∨ name ∈ vs.map memberName
      · have hcounts : ¬(before.count name = 0 ∧ (vs.map memberName).count name + 1 = 1) := by
          rw [List.count_eq_zero, Nat.add_eq_right, List.count_eq_zero]
          tauto
        rw [distinctName_of_shared hshared, if_neg hcounts, List.range'_succ, List.map_cons]
      · obtain ⟨hbefore, hafter⟩ := not_or.mp hshared
        rw [distinctName_of_single hbefore hafter, List.count_eq_zero.mpr hbefore,
          List.count_eq_zero.mpr hafter]
        rfl
    · rw [if_neg (by simpa using hv), ih, List.count_cons_of_ne hv, List.count_cons_of_ne hv]

theorem takeWhile_name_enumMembersFrom {before values : List Text} {m : EnumMember}
    (h : m ∈ enumMembersFrom before values) :
    m.name.takeWhile (· ≠ '_') = memberName m.value := by
  induction values generalizing before with
  | nil => exact absurd h List.not_mem_nil
  | cons v vs ih =>
    rw [enumMembersFrom] at h
    rcases List.mem_cons.mp h with rfl | h
    · have hname := underscore_notMem_memberName v
      dsimp only
      unfold distinctName
      split
      · exact takeWhile_append_underscore hname _
      · rw [List.takeWhile_eq_self_iff]
        exact fun c hc => decide_eq_true fun heq => hname (heq ▸ hc)
    · exact ih h

/-! ## Names of an enumeration -/

theorem nodup_sharedNames (before : Nat) (name : Text) (values : Nat) :
    (sharedNames before name values).Nodup := by
  unfold sharedNames
  split_ifs
  · exact List.nodup_singleton name
  · exact List.Nodup.map (fun _ _ => numbered_inj) List.nodup_range'

/-- **No two members have one name**: it tells the name that they share, and their numbers there
differ. -/
theorem nodup_names_enumMembers (values : List Text) :
    ((enumMembers values).map EnumMember.name).Nodup := by
  rw [List.nodup_iff_count_le_one]
  intro n
  by_cases hn : n ∈ (enumMembers values).map EnumMember.name
  · obtain ⟨m, hm, rfl⟩ := List.mem_map.mp hn
    have hsharing : ∀ k ∈ enumMembers values, k.name = m.name →
        memberName k.value = memberName m.value := by
      intro k hk hname
      rw [← takeWhile_name_enumMembersFrom hk, hname, takeWhile_name_enumMembersFrom hm]
    have hnodup := nodup_sharedNames (List.count (memberName m.value) []) (memberName m.value)
      (((sortedDistinct values).map memberName).count (memberName m.value))
    rw [← map_name_filter_enumMembersFrom] at hnodup
    have hcount := List.nodup_iff_count_le_one.mp hnodup m.name
    rw [List.count_eq_countP, List.countP_map, List.countP_filter] at hcount
    rw [List.count_eq_countP, List.countP_map]
    refine Nat.le_trans (Nat.le_of_eq (List.countP_congr fun k hk => ?_)) hcount
    simpa using hsharing k hk
  · exact Nat.le_trans (Nat.le_of_eq (List.count_eq_zero.mpr hn)) (Nat.zero_le 1)

/-- **The members of an enumeration**: one for each value, in strictly ascending order of the
values. All have names, and no two the same. A name that only one value gives is its name; those
that several values give are numbered in the order of the values, from zero and without gaps. -/
theorem enumMembers_named (values : List Text) :
    (((enumMembers values).map EnumMember.value).Pairwise (· < ·) ∧
        ∀ v, v ∈ (enumMembers values).map EnumMember.value ↔ v ∈ values) ∧
      (∀ m ∈ enumMembers values, m.name ≠ []) ∧
      ((enumMembers values).map EnumMember.name).Nodup ∧
      ∀ name,
        let sharing := (enumMembers values).filter fun m => memberName m.value = name
        sharing.map EnumMember.name =
          if sharing.length = 1 then [name]
          else (List.range sharing.length).map fun i => name ++ '_' :: Text.decimal i := by
  have hvalues : (enumMembers values).map EnumMember.value = sortedDistinct values :=
    map_value_enumMembersFrom [] _
  refine ⟨⟨?_, fun v => ?_⟩, fun m hm hnil => ?_, nodup_names_enumMembers values, fun name => ?_⟩
  · rw [hvalues]
    exact pairwise_sortedDistinct values
  · rw [hvalues, mem_sortedDistinct]
  · have hname := takeWhile_name_enumMembersFrom hm
    rw [hnil] at hname
    exact memberName_ne_nil m.value hname.symm
  · intro sharing
    have hnames : sharing.map EnumMember.name = sharedNames 0 name _ :=
      map_name_filter_enumMembersFrom [] (sortedDistinct values) name
    generalize ((sortedDistinct values).map memberName).count name = n at hnames
    have hlength : sharing.length = n := by
      rw [← List.length_map (f := EnumMember.name), hnames, sharedNames]
      split_ifs with h
      · exact h.2.symm
      · simp
    rw [hnames, hlength, sharedNames, List.range_eq_range']
    simp only [true_and]
    rfl

/-- Two values give one name, and a third one gives a name that begins with a digit. -/
example : (enumMembers ["light red".toList, "LightRed".toList, "2nd".toList]).map
    EnumMember.name = ["E2nd".toList, "LightRed_0".toList, "LightRed_1".toList] := by cbv

end SchemaTypes
