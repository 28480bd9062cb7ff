import Mathlib
import SchemaTypes.Proofs.Declaration.Listing
import SchemaTypes.Proofs.Declaration.Sound

/-!
# Where types and initializers come from

The type that is kept under a name is made from the schema that is listed last under it. What its
properties were initialized to was fixed when they were made, and for an enumeration it depends on
the schema of the property alone: its own enumeration had just been declared.

* `TypeDeclaration.MadeFrom`, `Property.MadeFrom`: types and properties made from schemas.
* `Schema.listedParts`, `Schema.origin?`: the schemas that are declared as types.
* `Declarations.Traces`: what is found under a name after an addition, and from which schema.
* **`traces_ofSchema`**: the types of a schema are made from those that are listed last.
* `Schema.defaultMember?`: the member of an enumeration for the default of a property.
* **`Property.MadeFrom.initializer_eq`**: a property is initialized to it.
* `Schema.KeepsDefault`: the enumeration that is kept has it as well.
-/

namespace SchemaTypes

/-! ## Types made from schemas -/

/-- The property is made from the schema under the key, in front of some declarations. -/
def Property.MadeFrom (dates : DateType) (required : Option (List Text)) (m : Text × Schema)
    (p : Property) : Prop :=
  ∃ d, p = .ofSchema required (resolve dates m.1 m.2 d).2.enums m.1 m.2 (typeExpr dates m.1 m.2)

/-- The properties of the type are made from those of the schema, one from each. -/
def TypeDeclaration.MadeFrom (dates : DateType) (s : Schema) (t : TypeDeclaration) : Prop :=
  List.Forall₂ (Property.MadeFrom dates s.required) (s.properties.getD []) t.properties

theorem madeFrom_resolveAll (dates : DateType) (required : Option (List Text))
    (members : List (Text × Schema)) (d : Declarations) :
    List.Forall₂ (Property.MadeFrom dates required) members
      (resolveAll dates required members d).1 := by
  induction members generalizing d with
  | nil =>
    rw [resolveAll]
    exact .nil
  | cons m members ih =>
    rw [resolveAll, fst_resolve]
    exact .cons ⟨d, rfl⟩ (ih _)

theorem TypeDeclaration.MadeFrom.of_resolveAll {dates : DateType} {s : Schema}
    {members : List (Text × Schema)} (h : s.properties = some members) (d : Declarations)
    {name : Text} {description : Option Text} :
    TypeDeclaration.MadeFrom dates s
      ⟨name, (resolveAll dates s.required members d).1, description⟩ := by
  unfold MadeFrom
  rw [h]
  exact madeFrom_resolveAll dates s.required members d

theorem exists_of_forall₂ {α β : Type} {R : α → β → Prop} {l : List α} {m : List β}
    (h : List.Forall₂ R l m) {a : α} (ha : a ∈ l) : ∃ b ∈ m, R a b := by
  induction h with
  | nil => exact absurd ha List.not_mem_nil
  | cons hab _ ih =>
    rcases List.mem_cons.mp ha with rfl | ha
    · exact ⟨_, List.mem_cons_self, hab⟩
    · obtain ⟨b, hb, hR⟩ := ih ha
      exact ⟨b, List.mem_cons_of_mem _ hb, hR⟩

namespace TypeDeclaration.MadeFrom

variable {dates : DateType} {s : Schema} {t : TypeDeclaration}

theorem exists_property (h : t.MadeFrom dates s) {m : Text × Schema}
    (hm : m ∈ s.properties.getD []) : ∃ p ∈ t.properties, p.MadeFrom dates s.required m :=
  exists_of_forall₂ h hm

theorem exists_schema (h : t.MadeFrom dates s) {p : Property} (hp : p ∈ t.properties) :
    ∃ m ∈ s.properties.getD [], p.MadeFrom dates s.required m :=
  exists_of_forall₂ h.flip hp

end TypeDeclaration.MadeFrom

theorem Property.MadeFrom.key_eq {dates : DateType} {required : Option (List Text)}
    {m : Text × Schema} {p : Property} (h : p.MadeFrom dates required m) : p.key = m.1 := by
  obtain ⟨d, rfl⟩ := h
  rfl

theorem TypeDeclaration.MadeFrom.map_key {dates : DateType} {s : Schema} {t : TypeDeclaration}
    (h : t.MadeFrom dates s) :
    t.properties.map Property.key = Table.keys (s.properties.getD []) := by
  have hkeys : List.Forall₂ (· = ·) (t.properties.map Property.key)
      ((s.properties.getD []).map Prod.fst) :=
    List.forall₂_map_left_iff.mpr
      (List.forall₂_map_right_iff.mpr (h.flip.imp fun _ _ => Property.MadeFrom.key_eq))
  rwa [List.forall₂_eq_eq_eq] at hkeys

namespace Schema

/-- The name and the schema of the type that a schema under a key is declared as, if it is an object
with properties. -/
def typePart? (key : Text) (s : Schema) : Option (Text × Schema) :=
  if s.stringEnum? = none ∧ s.type = some ("object" : Text) ∧ s.hasProperties then
    some (typeNameOf key s.title, s)
  else none

theorem typePart?_of_record {s : Schema} (h : s.shape = .record) (key : Text) :
    s.typePart? key = some (typeNameOf key s.title, s) :=
  if_pos (shape_eq_record_iff.mp h)

theorem typePart?_of_other {s : Schema} (h : s.shape ≠ .record) (key : Text) :
    s.typePart? key = none :=
  if_neg (mt shape_eq_record_iff.mpr h)

end Schema

/-- The schemas among parts that are declared as types, each with the name of its type. -/
def typeParts (parts : List (Text × Schema)) : List (Text × Schema) :=
  parts.filterMap fun p => p.2.typePart? p.1

theorem typeParts_append (ps qs : List (Text × Schema)) :
    typeParts (ps ++ qs) = typeParts ps ++ typeParts qs :=
  List.filterMap_append

namespace Schema

/-- The schemas that are declared as types, in the order in which they are; a schema whose own type
has the name is the last. -/
def listedParts (name : Text) (s : Schema) : List (Text × Schema) :=
  typeParts s.descendants ++ if s.hasProperties then [(name, s)] else []

/-- The schema that the type of a name is made from, where the type of the schema itself has a
name: of those that are declared under the name the last. -/
def origin? (root : Text) (s : Schema) (name : Text) : Option Schema :=
  (lastNamed Prod.fst (s.listedParts root) name).map Prod.snd

end Schema

/-! ## Additions -/

/-- Types are added in the order of a list of schemas: under each name there is one made from the
last of them, or else what was there before. -/
def Declarations.Traces (dates : DateType) (d d' : Declarations) (parts : List (Text × Schema)) :
    Prop :=
  ∀ name, match lastNamed Prod.fst parts name with
    | some p => ∃ t, Table.get? d'.types name = some t ∧ t.MadeFrom dates p.2
    | none => Table.get? d'.types name = Table.get? d.types name

namespace Declarations.Traces

variable {dates : DateType} {d d' d'' : Declarations} {ps qs : List (Text × Schema)}

theorem refl (d : Declarations) : d.Traces dates d [] :=
  fun _ => rfl

theorem trans (h : d.Traces dates d' ps) (h' : d'.Traces dates d'' qs) :
    d.Traces dates d'' (ps ++ qs) := by
  intro name
  have hps := h name
  have hqs := h' name
  rw [lastNamed_append]
  cases hlast : lastNamed Prod.fst qs name with
  | some q =>
    rw [hlast] at hqs
    exact hqs
  | none =>
    rw [hlast] at hqs
    rw [Option.none_or, hqs]
    exact hps

theorem addEnum (d : Declarations) (e : EnumDeclaration) : d.Traces dates (d.addEnum e) [] :=
  fun _ => rfl

theorem addType (d : Declarations) {t : TypeDeclaration} {s : Schema} (ht : t.MadeFrom dates s) :
    d.Traces dates (d.addType t) [(t.name, s)] := by
  intro name
  have hget : Table.get? (d.addType t).types name =
      if t.name = name then some t else Table.get? d.types name :=
    Table.get?_insert ..
  rw [lastNamed_singleton, hget]
  dsimp only
  split_ifs
  · exact ⟨t, rfl, ht⟩
  · rfl

end Declarations.Traces

/-! ## Additions of a schema -/

theorem typeParts_singleton (key : Text) (s : Schema) :
    typeParts [(key, s)] = (s.typePart? key).toList :=
  rfl

theorem accumulates_traces (dates : DateType) :
    Accumulates dates fun d d' ps => d.Traces dates d' (typeParts ps) where
  refl d := .refl d
  trans h h' := by
    rw [typeParts_append]
    exact h.trans h'
  enumeration d key s values hshape := by
    rw [typeParts_singleton, Schema.typePart?_of_other (by simp [hshape])]
    exact .addEnum d _
  record d before key s members hshape hmembers := by
    rw [typeParts_singleton, Schema.typePart?_of_record hshape]
    exact .addType d (.of_resolveAll hmembers before)
  other d key s henum hrecord := by
    rw [typeParts_singleton, Schema.typePart?_of_other hrecord]
    exact .refl d

/-- **The types of a schema** are made from the schemas that are listed last under their names. -/
theorem traces_ofSchema (dates : DateType) (name : Text) (s : Schema) :
    ({} : Declarations).Traces dates (Declarations.ofSchema dates name s)
      (s.listedParts name) := by
  unfold Declarations.ofSchema Schema.listedParts Schema.descendants Schema.hasProperties
  cases hmembers : s.properties with
  | none => exact .refl _
  | some members =>
    cases members with
    | nil => exact .refl _
    | cons m members =>
      have hown := (accumulates_traces dates).resolveAll s.required (m :: members) {}
      exact hown.trans (.addType _ (.of_resolveAll hmembers {}))

/-- **A type that is kept has an origin**, and it is made from that. -/
theorem origin?_of_get? {dates : DateType} {root : Text} {s : Schema} {name : Text}
    {t : TypeDeclaration}
    (ht : Table.get? (Declarations.ofSchema dates root s).types name = some t) :
    ∃ part, s.origin? root name = some part ∧ t.MadeFrom dates part := by
  have htraces := traces_ofSchema dates root s name
  unfold Schema.origin?
  cases hlast : lastNamed Prod.fst (s.listedParts root) name with
  | none =>
    rw [hlast] at htraces
    exact absurd (ht.symm.trans htraces) nofun
  | some p =>
    rw [hlast] at htraces
    obtain ⟨t', ht', hmade⟩ := htraces
    obtain rfl := Option.some.inj (ht'.symm.trans ht)
    exact ⟨p.2, rfl, hmade⟩

/-- What is an origin has its type. -/
theorem get?_of_origin? {root : Text} {s : Schema} {name : Text} {part : Schema}
    (hpart : s.origin? root name = some part) (dates : DateType) :
    ∃ t, Table.get? (Declarations.ofSchema dates root s).types name = some t ∧
      t.MadeFrom dates part := by
  obtain ⟨p, hlast, rfl⟩ := Option.map_eq_some_iff.mp hpart
  have htraces := traces_ofSchema dates root s name
  rw [hlast] at htraces
  exact htraces

theorem Schema.mem_listedParts_of_origin? {s : Schema} {root name : Text} {part : Schema}
    (h : s.origin? root name = some part) : part ∈ (s.listedParts root).map Prod.snd := by
  obtain ⟨p, hlast, rfl⟩ := Option.map_eq_some_iff.mp h
  exact List.mem_map_of_mem (mem_of_lastNamed hlast)

namespace Schema.Ordered

variable {s : Schema}

theorem of_origin? (h : s.Ordered) {root name : Text} {part : Schema}
    (hpart : s.origin? root name = some part) : part.Ordered := by
  obtain ⟨⟨_, _⟩, hlisted, rfl⟩ := List.mem_map.mp (mem_listedParts_of_origin? hpart)
  rcases List.mem_append.mp hlisted with hp | hp
  · obtain ⟨q, hq, htype⟩ := List.mem_filterMap.mp hp
    unfold typePart? at htype
    split_ifs at htype
    obtain rfl := (Prod.mk.inj (Option.some.inj htype)).2
    exact h.of_mem_descendants (q := q) hq
  · split_ifs at hp
    · obtain rfl := (Prod.mk.inj (List.mem_singleton.mp hp)).2
      exact h
    · exact absurd hp List.not_mem_nil

theorem nodup_keys (h : s.Ordered) : (Table.keys (s.properties.getD [])).Nodup := by
  obtain ⟨_, hkeys, _⟩ := h
  cases hproperties : s.properties with
  | none => exact List.nodup_nil
  | some members => exact Table.Ascending.nodup_keys (hkeys members hproperties)

theorem property_unique (h : s.Ordered) {key : Text} {p q : Schema}
    (hp : (key, p) ∈ s.properties.getD []) (hq : (key, q) ∈ s.properties.getD []) : p = q :=
  (Prod.mk.inj (List.inj_on_of_nodup_map h.nodup_keys hp hq rfl)).2

end Schema.Ordered

/-! ## Members for values -/

namespace EnumDeclaration

variable {e : EnumDeclaration}

/-- **The member for a value** is the one that has it. -/
theorem member?_eq_some_iff (h : (e.members.map EnumMember.value).Nodup) {value : Text}
    {m : EnumMember} : e.member? value = some m ↔ m ∈ e.members ∧ m.value = value := by
  constructor
  · intro hm
    have hvalue := List.find?_some hm
    exact ⟨List.mem_of_find?_eq_some hm, of_decide_eq_true hvalue⟩
  · rintro ⟨hm, rfl⟩
    cases hfind : e.member? m.value with
    | none => exact absurd (decide_eq_true rfl) (List.find?_eq_none.mp hfind m hm)
    | some m' =>
      have hvalue := List.find?_some hfind
      rw [List.inj_on_of_nodup_map h (List.mem_of_find?_eq_some hfind) hm
        (of_decide_eq_true hvalue)]

end EnumDeclaration

theorem nodup_values_of_enumDeclaration? {key : Text} {s : Schema} {e : EnumDeclaration}
    (h : s.enumDeclaration? key = some e) : (e.members.map EnumMember.value).Nodup := by
  obtain ⟨values, _, rfl⟩ := Option.map_eq_some_iff.mp h
  rw [enumMembers, map_value_enumMembersFrom]
  exact nodup_sortedDistinct values

/-! ## Initializers of enumerations -/

theorem Initializer.ofDefault?_named {enums : Table EnumDeclaration} {name : Text}
    {e : EnumDeclaration} (h : Table.get? enums name = some e) (value : Json) :
    ofDefault? enums (.named name) value =
      value.string?.bind fun v => (e.member? v).map fun m => .member name m.name := by
  unfold ofDefault?
  dsimp only [TypeExpr.text]
  rw [h]
  cases value.string? with
  | none => rfl
  | some v => exact (Option.map_eq_bind).symm

namespace Schema

/-- The member for the default of a schema that is an enumeration under a key, with the name of the
enumeration. -/
def defaultMember? (key : Text) (s : Schema) : Option (Text × EnumMember) :=
  (s.enumDeclaration? key).bind fun e =>
    (s.defaultValue.bind Json.string?).bind fun value => (e.member? value).map fun m => (e.name, m)

/-- Of the enumerations that are declared under the name the last has for the default of a property
the member that its own has. -/
def KeepsDefault (s : Schema) (m : Text × Schema) : Prop :=
  ∀ d ∈ m.2.defaultMember? m.1,
    (lastNamed EnumDeclaration.name s.listedEnums d.1).bind (·.member? d.2.value) = some d.2

instance (s : Schema) (m : Text × Schema) : Decidable (s.KeepsDefault m) :=
  inferInstanceAs (Decidable (∀ d ∈ m.2.defaultMember? m.1, _))

theorem keepsDefault_of_stringEnum?_eq_none {m : Text × Schema} (h : m.2.stringEnum? = none)
    (s : Schema) : s.KeepsDefault m := by
  unfold KeepsDefault defaultMember? enumDeclaration?
  rw [h]
  exact nofun

theorem defaultValue_of_defaultMember? {key : Text} {s : Schema} {d : Text × EnumMember}
    (h : s.defaultMember? key = some d) : s.defaultValue = some (.string d.2.value) := by
  unfold defaultMember? at h
  simp only [Option.bind_eq_some_iff, Option.map_eq_some_iff] at h
  obtain ⟨e, _, value, ⟨json, hjson, hvalue⟩, m, hm, rfl⟩ := h
  have hmember := List.find?_some hm
  cases json with
  | string v =>
    obtain rfl : v = value := Option.some.inj hvalue
    rw [hjson, of_decide_eq_true hmember]
  | _ => exact absurd hvalue nofun

end Schema

/-- **What a property is initialized to whose schema is an enumeration**: the member for the
default, whatever has been declared before. -/
theorem Property.MadeFrom.initializer_eq {dates : DateType} {required : Option (List Text)}
    {m : Text × Schema} {p : Property} (h : p.MadeFrom dates required m)
    (henum : m.2.stringEnum?.isSome) :
    p.initializer = (m.2.defaultMember? m.1).map fun d => .member d.1 d.2.name := by
  obtain ⟨d, rfl⟩ := h
  obtain ⟨values, hvalues⟩ := Option.isSome_iff_exists.mp henum
  have hshape := Schema.shape_eq_enumeration_iff.mpr hvalues
  have hget : Table.get? (resolve dates m.1 m.2 d).2.enums (typeNameOf m.1 m.2.title) =
      some ⟨typeNameOf m.1 m.2.title, enumMembers values, describe m.2.description⟩ := by
    rw [resolve_eq, hshape]
    exact (Table.get?_insert ..).trans (if_pos rfl)
  unfold Property.ofSchema Schema.defaultMember?
  rw [typeExpr_eq, hshape, Schema.enumDeclaration?_of_enumeration hshape]
  dsimp only [Option.bind_some]
  rw [Option.map_bind, Option.bind_assoc]
  refine Option.bind_congr fun value _ => ?_
  rw [Initializer.ofDefault?_named hget value]
  refine Option.bind_congr fun v _ => ?_
  rw [Function.comp_apply, Option.map_map]
  rfl

end SchemaTypes
