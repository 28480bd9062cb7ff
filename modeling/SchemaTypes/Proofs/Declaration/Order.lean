import SchemaTypes.Generation.Document
import SchemaTypes.Proofs.Declaration.Resolve
import SchemaTypes.Proofs.Table

/-!
# Every type once

The traversal of the names leaves each of them once, so that every type is written once.

* `Traversal.Leaves`: what is left between two states of a traversal.
* `perm_declarationOrder`: the names in their order are the keys of the table and the root.
* `Declarations.Filed`: every declaration is under its own name.
* **`Outline.perm_types`**: the types in their order are those that are declared.
-/

namespace SchemaTypes

/-! ## Traversals -/

/-- Between two states of a traversal the names are left, in order. -/
structure Traversal.Leaves (t t' : Traversal) (left : List Text) : Prop where
  order : t'.order = t.order ++ left
  perm : (left ++ t'.waiting).Perm t.waiting

namespace Traversal.Leaves

variable {t t' t'' : Traversal}

theorem refl (t : Traversal) : t.Leaves t [] :=
  ⟨(List.append_nil _).symm, .rfl⟩

theorem trans {a b : List Text} (h : t.Leaves t' a) (h' : t'.Leaves t'' b) :
    t.Leaves t'' (a ++ b) := by
  refine ⟨?_, ?_⟩
  · rw [h'.order, h.order, List.append_assoc]
  · rw [List.append_assoc]
    exact (h'.perm.append_left a).trans h.perm

theorem enter {name : Text} (hname : name ∈ t.waiting) {a : List Text}
    (h : (t.enter name).Leaves t' a) : t.Leaves (t'.leave name) (a ++ [name]) := by
  refine ⟨?_, ?_⟩
  · show t'.order ++ [name] = t.order ++ (a ++ [name])
    rw [h.order, List.append_assoc]
    rfl
  · have hperm : (name :: (a ++ t'.waiting)).Perm (name :: t.waiting.erase name) :=
      h.perm.cons name
    rw [List.append_assoc]
    exact (List.perm_middle.trans hperm).trans (List.perm_cons_erase hname).symm

theorem not_mem_waiting {a : List Text} (h : t.Leaves t' a) {name : Text}
    (hname : name ∉ t.waiting) : name ∉ t'.waiting :=
  fun hw => hname (h.perm.subset (List.mem_append_right a hw))

theorem nodup {a : List Text} (h : t.Leaves t' a) (ht : t.waiting.Nodup) : t'.waiting.Nodup :=
  (List.nodup_append.mp (h.perm.nodup_iff.mpr ht)).2.1

end Traversal.Leaves

/-- **A visit leaves names that waited.** -/
theorem exists_leaves_visit (next : Text → List Text) (names : List Text) (t : Traversal) :
    ∃ left, t.Leaves (visit next names t).val left := by
  fun_induction visit next names t with
  | case1 t => exact ⟨[], .refl t⟩
  | case2 name names t h hlt inner outer ihi iho =>
    obtain ⟨a, ha⟩ := ihi
    obtain ⟨b, hb⟩ := iho
    exact ⟨a ++ [name] ++ b, (ha.enter h).trans hb⟩
  | case3 name names t h ih => exact ih

/-- **None of the names waits after a visit.** -/
theorem not_mem_waiting_visit (next : Text → List Text) (names : List Text) (t : Traversal)
    (ht : t.waiting.Nodup) : ∀ n ∈ names, n ∉ (visit next names t).val.waiting := by
  fun_induction visit next names t with
  | case1 t => exact fun n hn => absurd hn List.not_mem_nil
  | case2 name names t h hlt inner outer ihi iho =>
    obtain ⟨a, ha⟩ := exists_leaves_visit next (next name) (t.enter name)
    obtain ⟨b, hb⟩ := exists_leaves_visit next names (inner.val.leave name)
    have hinner := (ha.enter h).nodup ht
    intro n hn
    rcases List.mem_cons.mp hn with rfl | hn
    · have hentered : n ∉ (t.enter n).waiting := fun hw => ht.not_mem_erase hw
      exact hb.not_mem_waiting (ha.not_mem_waiting hentered)
    · exact iho hinner n hn
  | case3 name names t h ih =>
    obtain ⟨b, hb⟩ := exists_leaves_visit next names t
    intro n hn
    rcases List.mem_cons.mp hn with rfl | hn
    · exact hb.not_mem_waiting h
    · exact ih ht n hn

/-- **The order has every key once**, and the root whether it is a key or not. -/
theorem perm_declarationOrder {types : Table TypeDeclaration} (h : (Table.keys types).Nodup)
    (root : Text) :
    (declarationOrder types root).Perm ((Table.keys types).insert root) := by
  unfold declarationOrder
  have hdone := not_mem_waiting_visit (referencesOf types) (root :: Table.keys types)
    ⟨(Table.keys types).insert root, []⟩ h.insert
  obtain ⟨left, hleft⟩ := exists_leaves_visit (referencesOf types) (root :: Table.keys types)
    ⟨(Table.keys types).insert root, []⟩
  generalize (visit _ _ _).val = t at hdone hleft ⊢
  -- whatever still waited would be a name that has been visited
  have hwaiting : t.waiting = [] := by
    rw [List.eq_nil_iff_forall_not_mem]
    intro n hn
    have hname := List.mem_insert_iff.mp (hleft.perm.subset (List.mem_append_right left hn))
    exact hdone n (List.mem_cons.mpr hname) hn
  have hperm := hleft.perm
  rw [hwaiting, List.append_nil] at hperm
  rw [hleft.order]
  exact hperm

/-! ## Names -/

/-- Every declaration is under its own name, and the names are in order. -/
structure Declarations.Filed (d : Declarations) : Prop where
  types : Table.Ascending d.types
  enums : Table.Ascending d.enums
  typeName : ∀ e ∈ d.types, e.2.name = e.1
  enumName : ∀ e ∈ d.enums, e.2.name = e.1

namespace Declarations.Filed

variable {d : Declarations}

theorem empty : ({} : Declarations).Filed :=
  ⟨List.Pairwise.nil, List.Pairwise.nil, fun _ h => absurd h List.not_mem_nil,
    fun _ h => absurd h List.not_mem_nil⟩

theorem addType (h : d.Filed) (t : TypeDeclaration) : (d.addType t).Filed where
  types := h.types.insert _ _
  enums := h.enums
  typeName e he := by
    rcases Table.mem_insert he with rfl | he
    · rfl
    · exact h.typeName e he
  enumName := h.enumName

theorem addEnum (h : d.Filed) (e : EnumDeclaration) : (d.addEnum e).Filed where
  types := h.types
  enums := h.enums.insert _ _
  typeName := h.typeName
  enumName a ha := by
    rcases Table.mem_insert ha with rfl | ha
    · rfl
    · exact h.enumName a ha

end Declarations.Filed

/-- **The declarations of a schema** are under their names. -/
theorem filed_ofSchema (dates : DateType) (name : Text) (s : Schema) :
    (Declarations.ofSchema dates name s).Filed := by
  have hgrows : Grows dates Declarations.Filed fun _ => True :=
    { enumeration := fun d key s values hd _ => hd.addEnum _
      property := fun d required key s _ => trivial
      record := fun d key s properties hd _ => hd.addType _ }
  exact hgrows.ofSchema .empty name s fun d properties hd _ => hd.addType _

/-- **A schema declares types** if it has properties. -/
theorem isEmpty_types_ofSchema (dates : DateType) (name : Text) (s : Schema) :
    (Declarations.ofSchema dates name s).types.isEmpty = true ↔ s.properties.getD [] = [] := by
  unfold Declarations.ofSchema
  split
  · next h => simp [h]
  · next h => simp [h]
  · next members hne h =>
    rw [h, Option.getD_some, List.isEmpty_iff]
    exact ⟨fun hnil => absurd hnil (Table.insert_ne_nil _ _ _), fun hnil => absurd hnil hne⟩

/-! ## Outlines -/

namespace Outline

variable {o : Outline}

theorem exists_schema_of_ofText {dates : DateType} {text : Text}
    (h : Outline.ofText dates text = .ok o) :
    ∃ s, Schema.ofText text = .ok s ∧ s.type = some ("object" : Text) ∧
      o = ⟨rootName s.title, Declarations.ofSchema dates (rootName s.title) s⟩ ∧
      o.declarations.types.isEmpty = false := by
  unfold ofText ofSchema at h
  split at h
  · next s hs =>
    split at h
    · next htype =>
      dsimp only at h
      split at h
      · exact absurd h nofun
      · next hne =>
        obtain rfl := Except.ok.inj h
        exact ⟨s, hs, htype, rfl, Bool.eq_false_iff.mpr hne⟩
    · exact absurd h nofun
  · exact absurd h nofun

theorem filed_of_ofText {dates : DateType} {text : Text}
    (h : Outline.ofText dates text = .ok o) : o.declarations.Filed := by
  obtain ⟨s, _, _, rfl, _⟩ := exists_schema_of_ofText h
  exact filed_ofSchema dates _ s

theorem mem_declarations_of_mem_types {t : TypeDeclaration} (h : t ∈ o.types) :
    ∃ key, (key, t) ∈ o.declarations.types := by
  obtain ⟨key, _, hkey⟩ := List.mem_filterMap.mp h
  exact ⟨key, Table.mem_of_get? hkey⟩

/-- **The types that are written** are those that are declared, each once. -/
theorem perm_types (h : o.declarations.Filed) :
    o.types.Perm o.declarations.types.values := by
  have horder : o.typeNames.Perm ((Table.keys o.declarations.types).insert o.root) :=
    perm_declarationOrder h.types.nodup_keys o.root
  have hfound : (Table.keys o.declarations.types).filterMap
      (Table.get? o.declarations.types) = o.declarations.types.values := by
    unfold Table.keys Table.values
    rw [List.filterMap_map]
    refine List.filterMap_eq_map_iff_forall_eq_some.mpr ?_
    intro e he
    exact Table.get?_of_mem h.types.nodup_keys he
  -- under a root that is no key no type is found
  have hroot : ((Table.keys o.declarations.types).insert o.root).filterMap
      (Table.get? o.declarations.types) = o.declarations.types.values := by
    by_cases hkey : o.root ∈ Table.keys o.declarations.types
    · rw [List.insert_of_mem hkey, hfound]
    · rw [List.insert_of_not_mem hkey, List.filterMap_cons_none (Table.get?_eq_none hkey), hfound]
  exact hroot ▸ horder.filterMap _

theorem mem_types_iff (h : o.declarations.Filed) {t : TypeDeclaration} {name : Text} :
    (t ∈ o.types ∧ t.name = name) ↔ Table.get? o.declarations.types name = some t := by
  rw [(perm_types h).mem_iff]
  exact Table.mem_values_iff h.types h.typeName

/-- **No two types that are written have one name.** -/
theorem nodup_name_types (h : o.declarations.Filed) :
    (o.types.map TypeDeclaration.name).Nodup := by
  have hnames : o.declarations.types.values.map TypeDeclaration.name =
      Table.keys o.declarations.types := by
    unfold Table.values Table.keys
    rw [List.map_map]
    exact List.map_congr_left h.typeName
  rw [((perm_types h).map TypeDeclaration.name).nodup_iff, hnames]
  exact h.types.nodup_keys

end Outline

end SchemaTypes
