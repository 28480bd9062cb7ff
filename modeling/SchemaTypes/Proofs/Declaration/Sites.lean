import Mathlib.Data.List.Nodup
import Mathlib.Logic.Relation
import SchemaTypes.Proofs.Declaration.Order

/-!
# Where names come from

Every enumeration and every type that is declared comes from a part of the schema.

* `Schema.shape_eq_array_iff`, `Schema.shape_eq_record_iff`: what the kind of values says of a
  schema.
* `Schema.parts`: the parts of a schema, one step down; `reached`: all that is below it.
* `mem_reached_iff`: that is what some steps down lead to.
* `Site`: a part that is given a name, with its values or keys.
* `Declarations.Adds`: declarations are added one by one.
* **`addsSites_resolve`**: those that a schema adds come from its sites, each from one.
* `Declarations.Adds.perm_sites`: if their names differ, none of them gives way to another.
-/

namespace SchemaTypes

/-! ## Shapes -/

namespace Schema

variable {s : Schema}

theorem shapeOfType_array (s : Schema) : s.shapeOfType "array" = .array := by
  simp [shapeOfType, Text.ofString_eq]

theorem shapeOfType_object (s : Schema) :
    s.shapeOfType "object" = if s.hasProperties then .record else .openObject := by
  simp [shapeOfType, Text.ofString_eq]

theorem shape_of_type {type : Text} (henum : s.stringEnum? = none) (htype : s.type = some type) :
    s.shape = s.shapeOfType type := by
  unfold shape
  rw [henum, htype]
  rfl

theorem shape_eq_enumeration_iff {values : List Text} :
    s.shape = .enumeration values ↔ s.stringEnum? = some values := by
  unfold shape
  cases s.stringEnum? with
  | some values' => simp
  | none =>
    refine ⟨fun h => ?_, fun h => absurd h nofun⟩
    cases htype : s.type with
    | none =>
      rw [htype] at h
      exact absurd h nofun
    | some type =>
      rw [htype] at h
      dsimp only [Option.map_some, Option.getD_some] at h
      unfold shapeOfType at h
      split_ifs at h

theorem exists_type_of_shape {kind : Shape} (h : s.shape = kind)
    (henum : ∀ values, kind ≠ .enumeration values) (hany : kind ≠ .any) :
    s.stringEnum? = none ∧ ∃ type, s.type = some type ∧ s.shapeOfType type = kind := by
  subst h
  cases hstrings : s.stringEnum? with
  | some values => exact absurd (shape_eq_enumeration_iff.mpr hstrings) (henum values)
  | none =>
    cases htype : s.type with
    | none =>
      refine absurd ?_ hany
      unfold shape
      rw [hstrings, htype]
      rfl
    | some type => exact ⟨rfl, type, rfl, (shape_of_type hstrings htype).symm⟩

theorem shape_eq_array_iff :
    s.shape = .array ↔ s.stringEnum? = none ∧ s.type = some ("array" : Text) := by
  constructor
  · intro h
    obtain ⟨henum, type, htype, hshape⟩ := exists_type_of_shape h nofun nofun
    refine ⟨henum, ?_⟩
    unfold shapeOfType at hshape
    split_ifs at hshape with _ _ _ _ harray
    rw [htype, harray]
  · rintro ⟨henum, htype⟩
    rw [shape_of_type henum htype, shapeOfType_array]

theorem shape_eq_record_iff :
    s.shape = .record ↔
      s.stringEnum? = none ∧ s.type = some ("object" : Text) ∧ s.hasProperties = true := by
  constructor
  · intro h
    obtain ⟨henum, type, htype, hshape⟩ := exists_type_of_shape h nofun nofun
    refine ⟨henum, ?_⟩
    unfold shapeOfType at hshape
    split_ifs at hshape with _ _ _ _ _ hobject hproperties
    rw [htype, hobject]
    exact ⟨rfl, hproperties⟩
  · rintro ⟨henum, htype, hproperties⟩
    rw [shape_of_type henum htype, shapeOfType_object, if_pos hproperties]

theorem exists_properties_of_record (hshape : s.shape = .record) :
    ∃ members, s.properties = some members := by
  have hproperties := (shape_eq_record_iff.mp hshape).2.2
  unfold hasProperties at hproperties
  cases hmembers : s.properties with
  | none =>
    rw [hmembers] at hproperties
    exact absurd hproperties nofun
  | some members => exact ⟨members, rfl⟩

end Schema

/-! ## Parts -/

/-- The parts of a schema under a key: the properties of an object and the items of an array. What
is an enumeration of strings has no parts. -/
def Schema.parts (key : Text) (s : Schema) : List (Text × Schema) :=
  if s.stringEnum?.isSome then []
  else if s.type = some ("array" : Text) then s.items.toList.map (key, ·)
  else if s.type = some ("object" : Text) then s.properties.getD []
  else []

namespace Schema

variable {s : Schema}

theorem parts_of_array (hshape : s.shape = .array) (key : Text) :
    s.parts key = s.items.toList.map (key, ·) := by
  obtain ⟨henum, htype⟩ := shape_eq_array_iff.mp hshape
  unfold parts
  rw [henum, htype]
  exact if_pos rfl

theorem parts_of_record (hshape : s.shape = .record) (key : Text) :
    s.parts key = s.properties.getD [] := by
  obtain ⟨henum, htype, _⟩ := shape_eq_record_iff.mp hshape
  have harray : ("object" : Text) ≠ "array" := by simp [Text.ofString_eq]
  unfold parts
  rw [henum, htype]
  exact (if_neg fun h => harray (Option.some.inj h)).trans (if_pos rfl)

theorem parts_of_other (harray : s.shape ≠ .array) (hrecord : s.shape ≠ .record) (key : Text) :
    s.parts key = [] := by
  unfold parts
  split_ifs with henum htype htype
  · rfl
  · exact absurd (shape_eq_array_iff.mpr ⟨by simpa using henum, htype⟩) harray
  · have hproperties : ¬s.hasProperties = true := fun h =>
      hrecord (shape_eq_record_iff.mpr ⟨by simpa using henum, htype, h⟩)
    unfold hasProperties at hproperties
    cases hmembers : s.properties with
    | none => rfl
    | some members =>
      rw [hmembers] at hproperties
      exact List.isEmpty_iff.mp (by simpa using hproperties)
  · rfl

end Schema

mutual

/-- A schema under a key and all that is below it. -/
def reached (key : Text) : Schema → List (Text × Schema)
  | s@⟨_, _, type, _, properties, _, _, items, _, _⟩ =>
    (key, s) ::
      if s.stringEnum?.isSome then []
      else if type = some ("array" : Text) then
        match items with
        | none => []
        | some item => reached key item
      else if type = some ("object" : Text) then
        match properties with
        | none => []
        | some members => reachedAll members
      else []

/-- The schemas of a list under their keys and all that is below them. -/
def reachedAll : List (Text × Schema) → List (Text × Schema)
  | [] => []
  | (key, s) :: rest => reached key s ++ reachedAll rest

end

theorem reachedAll_eq (members : List (Text × Schema)) :
    reachedAll members = members.flatMap fun m => reached m.1 m.2 := by
  induction members with
  | nil => rw [reachedAll, List.flatMap_nil]
  | cons m members ih => rw [reachedAll, ih, List.flatMap_cons]

/-- **One step down.** -/
theorem reached_eq (key : Text) (s : Schema) :
    reached key s = (key, s) :: (s.parts key).flatMap fun p => reached p.1 p.2 := by
  obtain ⟨title, description, type, format, properties, required, enumeration, items, readOnly,
    defaultValue⟩ := s
  rw [reached.eq_def]
  unfold Schema.parts
  dsimp only
  congr 1
  split_ifs
  · rfl
  · cases items with
    | none => rfl
    | some item => exact (List.append_nil _).symm
  · cases properties with
    | none => rfl
    | some members => exact reachedAll_eq members
  · rfl

theorem mem_parts {key : Text} {s : Schema} {p : Text × Schema} (h : p ∈ s.parts key) :
    p.2 ∈ s.items ∨ ∃ members ∈ s.properties, p ∈ members := by
  unfold Schema.parts at h
  split_ifs at h
  · exact absurd h List.not_mem_nil
  · obtain ⟨item, hitem, rfl⟩ := List.mem_map.mp h
    exact .inl (Option.mem_toList.mp hitem)
  · cases hproperties : s.properties with
    | none =>
      rw [hproperties] at h
      exact absurd h List.not_mem_nil
    | some members =>
      rw [hproperties] at h
      exact .inr ⟨members, rfl, h⟩
  · exact absurd h List.not_mem_nil

/-- **All that is below a schema** is what steps down lead to. -/
theorem mem_reached_iff {key : Text} {s : Schema} {q : Text × Schema} :
    q ∈ reached key s ↔
      Relation.ReflTransGen (fun p p' => p' ∈ p.2.parts p.1) (key, s) q := by
  constructor
  · intro h
    induction s using Schema.induction generalizing key with
    | h s hi hp =>
      rw [reached_eq] at h
      rcases List.mem_cons.mp h with rfl | h
      · exact .refl
      · obtain ⟨p, hpart, hq⟩ := List.mem_flatMap.mp h
        refine .head hpart ?_
        rcases mem_parts hpart with hitem | ⟨members, hmembers, hm⟩
        · exact hi p.2 hitem hq
        · exact hp members hmembers p hm hq
  · intro h
    generalize hstart : (key, s) = start at h
    induction h using Relation.ReflTransGen.head_induction_on generalizing key s with
    | refl =>
      subst hstart
      rw [reached_eq]
      exact List.mem_cons_self
    | @head p p' hpart hrest ih =>
      subst hstart
      rw [reached_eq]
      exact List.mem_cons_of_mem _ (List.mem_flatMap.mpr ⟨p', hpart, ih rfl⟩)

/-! ## Sites -/

/-- What is given a name: an enumeration with its values or a type with the keys of its
properties. -/
inductive Site where
  | enum (name : Text) (values : List Text)
  | type (name : Text) (keys : List Text)
deriving DecidableEq, Repr

namespace Site

/-- The kind and the name of a site, under which it is declared. -/
def label : Site → Bool × Text
  | enum name _ => (true, name)
  | type name _ => (false, name)

/-- The site with its values in order, each once. -/
def sorted : Site → Site
  | enum name values => enum name (sortedDistinct values)
  | type name keys => type name keys

@[simp] theorem label_sorted (p : Site) : p.sorted.label = p.label := by
  cases p <;> rfl

end Site

/-- The site that a schema under a key is, if it is one. -/
def Schema.site? (key : Text) (s : Schema) : Option Site :=
  match s.stringEnum? with
  | some values => some (.enum (typeNameOf key s.title) values)
  | none =>
    if s.type = some ("object" : Text) ∧ s.hasProperties then
      some (.type (typeNameOf key s.title) ((s.properties.getD []).map Prod.fst))
    else none

/-- The sites among schemas under their keys. -/
def sitesOf (parts : List (Text × Schema)) : List Site :=
  parts.filterMap fun p => p.2.site? p.1

@[simp] theorem sitesOf_append (ps qs : List (Text × Schema)) :
    sitesOf (ps ++ qs) = sitesOf ps ++ sitesOf qs :=
  List.filterMap_append

/-- The sites of a schema whose own type has the name. -/
def Schema.sites (name : Text) (s : Schema) : List Site :=
  .type name ((s.properties.getD []).map Prod.fst) :: sitesOf (reachedAll (s.properties.getD []))

/-- The sites of a schema whose types are written. -/
def Schema.rootSites (s : Schema) : List Site :=
  s.sites (rootName s.title)

/-- The site of an enumeration. -/
def EnumDeclaration.site (e : EnumDeclaration) : Site :=
  .enum e.name (e.members.map EnumMember.value)

/-- The site of a type. -/
def TypeDeclaration.site (t : TypeDeclaration) : Site :=
  .type t.name (t.properties.map Property.key)

/-- The sites of all that is declared. -/
def Declarations.sites (d : Declarations) : List Site :=
  d.enums.values.map EnumDeclaration.site ++ d.types.values.map TypeDeclaration.site

/-! ## Additions -/

/-- Declarations come from others by the addition of those with the sites, the last one first. -/
inductive Declarations.Adds (d : Declarations) : List Site → Declarations → Prop
  | refl : Adds d [] d
  | addEnum {sites : List Site} {d' : Declarations} (h : Adds d sites d') (e : EnumDeclaration) :
    Adds d (e.site :: sites) (d'.addEnum e)
  | addType {sites : List Site} {d' : Declarations} (h : Adds d sites d') (t : TypeDeclaration) :
    Adds d (t.site :: sites) (d'.addType t)

namespace Declarations.Adds

variable {d d' d'' : Declarations} {ps qs : List Site}

theorem trans (h : d.Adds ps d') (h' : d'.Adds qs d'') : d.Adds (qs ++ ps) d'' := by
  induction h' with
  | refl => exact h
  | addEnum _ e ih => exact ih.addEnum e
  | addType _ t ih => exact ih.addType t

theorem filed (h : d.Adds ps d') (hd : d.Filed) : d'.Filed := by
  induction h with
  | refl => exact hd
  | addEnum _ e ih => exact ih.addEnum e
  | addType _ t ih => exact ih.addType t

/-- **Nothing is declared that has not been added.** -/
theorem label_mem (h : d.Adds ps d') :
    ∀ p ∈ d'.sites, p.label ∈ (ps ++ d.sites).map Site.label := by
  induction h with
  | refl => exact fun p hp => List.mem_map_of_mem hp
  | @addEnum sites d' h e ih =>
    intro p hp
    rw [List.cons_append, List.map_cons, List.mem_cons]
    rcases List.mem_append.mp hp with hp | hp
    · obtain ⟨a, ha, rfl⟩ := List.mem_map.mp hp
      obtain ⟨entry, hentry, rfl⟩ := List.mem_map.mp ha
      rcases Table.mem_insert hentry with rfl | hentry
      · exact .inl rfl
      · have hvalue := List.mem_map_of_mem (f := Prod.snd) hentry
        exact .inr (ih _ (List.mem_append_left _ (List.mem_map_of_mem hvalue)))
    · exact .inr (ih p (List.mem_append_right _ hp))
  | @addType sites d' h t ih =>
    intro p hp
    rw [List.cons_append, List.map_cons, List.mem_cons]
    rcases List.mem_append.mp hp with hp | hp
    · exact .inr (ih p (List.mem_append_left _ hp))
    · obtain ⟨a, ha, rfl⟩ := List.mem_map.mp hp
      obtain ⟨entry, hentry, rfl⟩ := List.mem_map.mp ha
      rcases Table.mem_insert hentry with rfl | hentry
      · exact .inl rfl
      · have hvalue := List.mem_map_of_mem (f := Prod.snd) hentry
        exact .inr (ih _ (List.mem_append_right _ (List.mem_map_of_mem hvalue)))

/-- **If the labels differ, all is declared that has been added.** -/
theorem perm_sites (h : d.Adds ps d') (hd : d.Filed)
    (hn : ((ps ++ d.sites).map Site.label).Nodup) : d'.sites.Perm (ps ++ d.sites) := by
  induction h with
  | refl => exact .rfl
  | @addEnum sites d' h e ih =>
    rw [List.cons_append, List.map_cons, List.nodup_cons] at hn
    have hperm := ih hn.2
    have hnew : e.name ∉ Table.keys d'.enums := by
      intro hk
      obtain ⟨a, ha, hkey⟩ := List.mem_map.mp hk
      have hsite : a.2.site ∈ d'.sites :=
        List.mem_append_left _ (List.mem_map_of_mem (List.mem_map_of_mem ha))
      have hlabel : a.2.site.label = e.site.label := by
        show (true, a.2.name) = (true, e.name)
        rw [(h.filed hd).enumName a ha, hkey]
      exact hn.1 (hlabel ▸ List.mem_map_of_mem (hperm.mem_iff.mp hsite))
    have hvalues : (d'.addEnum e).enums.values.Perm (e :: d'.enums.values) :=
      (Table.perm_insert hnew e).map Prod.snd
    exact ((hvalues.map EnumDeclaration.site).append_right _).trans (hperm.cons e.site)
  | @addType sites d' h t ih =>
    rw [List.cons_append, List.map_cons, List.nodup_cons] at hn
    have hperm := ih hn.2
    have hnew : t.name ∉ Table.keys d'.types := by
      intro hk
      obtain ⟨a, ha, hkey⟩ := List.mem_map.mp hk
      have hsite : a.2.site ∈ d'.sites :=
        List.mem_append_right _ (List.mem_map_of_mem (List.mem_map_of_mem ha))
      have hlabel : a.2.site.label = t.site.label := by
        show (false, a.2.name) = (false, t.name)
        rw [(h.filed hd).typeName a ha, hkey]
      exact hn.1 (hlabel ▸ List.mem_map_of_mem (hperm.mem_iff.mp hsite))
    have hvalues : (d'.addType t).types.values.Perm (t :: d'.types.values) :=
      (Table.perm_insert hnew t).map Prod.snd
    exact (((hvalues.map TypeDeclaration.site).append_left _).trans List.perm_middle).trans
      (hperm.cons t.site)

end Declarations.Adds

/-! ## Additions of a schema -/

theorem map_key_resolveAll (dates : DateType) (required : Option (List Text))
    (members : List (Text × Schema)) (d : Declarations) :
    (resolveAll dates required members d).1.map Property.key = members.map Prod.fst := by
  induction members generalizing d with
  | nil => rw [resolveAll, List.map_nil, List.map_nil]
  | cons m members ih =>
    rw [resolveAll, List.map_cons, List.map_cons, ih]
    rfl

theorem site_enumMembers (name : Text) (values : List Text) (description : Option Text) :
    (EnumDeclaration.mk name (enumMembers values) description).site =
      (Site.enum name values).sorted := by
  show Site.enum name ((enumMembers values).map EnumMember.value) = _
  rw [enumMembers, map_value_enumMembersFrom]
  rfl

/-- To any declarations those with the sites are added. -/
def AddsSites (add : Declarations → Declarations) (sites : List Site) : Prop :=
  ∀ d : Declarations, ∃ ps, d.Adds ps (add d) ∧ ps.Perm (sites.map Site.sorted)

theorem addsSites_nil : AddsSites (fun d => d) [] :=
  fun _ => ⟨[], .refl, .rfl⟩

theorem AddsSites.trans {add add' : Declarations → Declarations} {ps qs : List Site}
    (h : AddsSites add ps) (h' : AddsSites add' qs) :
    AddsSites (fun d => add' (add d)) (ps ++ qs) := by
  intro d
  obtain ⟨xs, hxs, hperm⟩ := h d
  obtain ⟨ys, hys, hperm'⟩ := h' (add d)
  refine ⟨ys ++ xs, hxs.trans hys, ?_⟩
  rw [List.map_append]
  exact List.perm_append_comm.trans (hperm.append hperm')

theorem addsSites_addEnum (name : Text) (values : List Text) (description : Option Text) :
    AddsSites (fun d => d.addEnum ⟨name, enumMembers values, description⟩)
      [.enum name values] := by
  intro d
  refine ⟨_, Declarations.Adds.refl.addEnum _, ?_⟩
  rw [site_enumMembers]
  exact .rfl

theorem addsSites_resolveAll (dates : DateType) (required : Option (List Text))
    {members : List (Text × Schema)}
    (hm : ∀ m ∈ members,
      AddsSites (fun d => (resolve dates m.1 m.2 d).2) (sitesOf (reached m.1 m.2))) :
    AddsSites (fun d => (resolveAll dates required members d).2)
      (sitesOf (reachedAll members)) := by
  induction members with
  | nil =>
    unfold resolveAll reachedAll
    exact addsSites_nil
  | cons m members ih =>
    unfold resolveAll reachedAll
    rw [sitesOf_append]
    exact (hm m List.mem_cons_self).trans (ih fun a ha => hm a (List.mem_cons_of_mem m ha))

theorem addsSites_addType (dates : DateType) (name : Text) (description : Option Text) {s : Schema}
    {members : List (Text × Schema)} (hproperties : s.properties = some members)
    (hm : ∀ m ∈ members,
      AddsSites (fun d => (resolve dates m.1 m.2 d).2) (sitesOf (reached m.1 m.2))) :
    AddsSites (fun d => (resolveAll dates s.required members d).2.addType
      ⟨name, (resolveAll dates s.required members d).1, description⟩) (s.sites name) := by
  intro d
  obtain ⟨ps, hps, hperm⟩ := addsSites_resolveAll dates s.required hm d
  refine ⟨_, hps.addType _, ?_⟩
  unfold Schema.sites
  rw [hproperties]
  refine List.Perm.trans ?_ (hperm.cons _)
  unfold TypeDeclaration.site
  dsimp only
  rw [map_key_resolveAll]
  exact .rfl

/-- The sites of a schema and all that is below it. -/
theorem sitesOf_reached (key : Text) (s : Schema) :
    sitesOf (reached key s) =
      (s.site? key).toList ++ (s.parts key).flatMap fun p => sitesOf (reached p.1 p.2) := by
  rw [reached_eq, sitesOf, List.filterMap_cons, List.filterMap_flatMap]
  cases s.site? key <;> rfl

namespace Schema

variable {s : Schema} {key : Text}

theorem site?_of_enumeration {values : List Text} (h : s.shape = .enumeration values) :
    s.site? key = some (.enum (typeNameOf key s.title) values) := by
  unfold site?
  rw [shape_eq_enumeration_iff.mp h]

theorem site?_of_record (h : s.shape = .record) :
    s.site? key =
      some (.type (typeNameOf key s.title) ((s.properties.getD []).map Prod.fst)) := by
  obtain ⟨henum, hrecord⟩ := shape_eq_record_iff.mp h
  unfold site?
  rw [henum]
  exact if_pos hrecord

theorem site?_of_other (henum : ∀ values, s.shape ≠ .enumeration values)
    (hrecord : s.shape ≠ .record) : s.site? key = none := by
  unfold site?
  cases hstrings : s.stringEnum? with
  | some values => exact absurd (shape_eq_enumeration_iff.mpr hstrings) (henum values)
  | none => exact if_neg fun h => hrecord (shape_eq_record_iff.mpr ⟨hstrings, h⟩)

theorem sitesOf_reached_record (h : s.shape = .record) :
    sitesOf (reached key s) = s.sites (typeNameOf key s.title) := by
  rw [sitesOf_reached, site?_of_record h, parts_of_record h]
  unfold sites
  rw [reachedAll_eq, sitesOf, List.filterMap_flatMap]
  rfl

end Schema

/-- **What a schema adds comes from its sites**, each from one. -/
theorem addsSites_resolve (dates : DateType) (s : Schema) :
    ∀ key, AddsSites (fun d => (resolve dates key s d).2) (sitesOf (reached key s)) := by
  induction s using Schema.induction with
  | h s hi hp =>
    intro key
    have hstep : (fun d => (resolve dates key s d).2) = fun d => _ :=
      funext fun d => resolve_eq dates key s d
    rw [hstep]
    cases hshape : s.shape with
    | enumeration values =>
      rw [sitesOf_reached, Schema.site?_of_enumeration hshape,
        Schema.parts_of_other (by simp [hshape]) (by simp [hshape])]
      exact addsSites_addEnum _ values _
    | array =>
      rw [sitesOf_reached, Schema.site?_of_other (by simp [hshape]) (by simp [hshape]),
        Schema.parts_of_array hshape, List.flatMap_map]
      cases hitems : s.items with
      | none => exact addsSites_nil
      | some item =>
        rw [Option.toList_some, List.flatMap_singleton]
        exact hi item hitems key
    | record =>
      rw [Schema.sitesOf_reached_record hshape]
      obtain ⟨members, hmembers⟩ := Schema.exists_properties_of_record hshape
      have hadds := addsSites_addType dates (typeNameOf key s.title) (describe s.description)
        hmembers fun m hm => hp members hmembers m hm m.1
      rw [hmembers]
      exact hadds
    | _ =>
      rw [sitesOf_reached, Schema.site?_of_other (by simp [hshape]) (by simp [hshape]),
        Schema.parts_of_other (by simp [hshape]) (by simp [hshape])]
      exact addsSites_nil

/-- **The declarations of a schema** come from its sites, its own type among them. -/
theorem exists_adds_ofSchema (dates : DateType) (name : Text) {s : Schema}
    (h : s.hasProperties = true) :
    ∃ ps, ({} : Declarations).Adds ps (Declarations.ofSchema dates name s) ∧
      ps.Perm ((s.sites name).map Site.sorted) := by
  unfold Schema.hasProperties at h
  unfold Declarations.ofSchema
  cases hproperties : s.properties with
  | none =>
    rw [hproperties] at h
    exact absurd h nofun
  | some members =>
    cases members with
    | nil =>
      rw [hproperties] at h
      exact absurd h nofun
    | cons m members =>
      exact addsSites_addType dates name _ hproperties
        (fun a _ => addsSites_resolve dates a.2 a.1) {}

end SchemaTypes
