import Mathlib
import SchemaTypes.Proofs.Declaration.Sites
import SchemaTypes.Proofs.Schema.Ordered

/-!
# Declarations as a listing

The declarations of a schema can be told without going from one to the next: the parts of the
schema are listed, what is below a part before the part itself, and of those that are declared
under one name the last is kept.

* `Schema.writtenType`: the written type of the values under a key.
* `Schema.visited`: the parts of a schema; `perm_visited_reached`: they are all that is below it.
* `Accumulates.resolve`: what holds of every addition holds of all that are made on the way.
* `TypeSignature`: a type without the initializers of its properties.
* `typesOf`, `enumsOf`: the types and the enumerations among parts, as they are declared.
* `Declarations.Gains`: what is found under a name after an addition.
* `accumulates_gains`: a step into a schema adds what its parts declare.
* **`declarations_eq_listing`**: the declarations of a schema are those that are listed last.
-/

namespace SchemaTypes

/-! ## Written types -/

namespace Schema

/-- The written type of the values under a key. -/
def writtenType (dates : DateType) (key : Text) : Schema → Text
  | s@⟨title, _, type, format, _, _, _, items, _, _⟩ =>
    if s.stringEnum?.isSome then typeNameOf key title
    else if type = some ("string" : Text) then
      if isDateFormat format ∧ dates = .date then "Date" else "string"
    else if type = some ("integer" : Text) ∨ type = some ("number" : Text) then "number"
    else if type = some ("boolean" : Text) then "boolean"
    else if type = some ("array" : Text) then
      match items with
      | none => ("any" : Text) ++ "[]"
      | some item => writtenType dates key item ++ "[]"
    else if type = some ("object" : Text) then
      if s.hasProperties then typeNameOf key title else "\x7b [key: string]: any \x7d"
    else "any"

theorem writtenType_eq (dates : DateType) (key : Text) (s : Schema) :
    s.writtenType dates key =
      if s.stringEnum?.isSome then typeNameOf key s.title
      else if s.type = some ("string" : Text) then
        if isDateFormat s.format ∧ dates = .date then "Date" else "string"
      else if s.type = some ("integer" : Text) ∨ s.type = some ("number" : Text) then "number"
      else if s.type = some ("boolean" : Text) then "boolean"
      else if s.type = some ("array" : Text) then
        (s.items.map (writtenType dates key)).getD "any" ++ "[]"
      else if s.type = some ("object" : Text) then
        if s.hasProperties then typeNameOf key s.title else "\x7b [key: string]: any \x7d"
      else "any" := by
  cases s with
  | mk title description type format properties required enumeration items readOnly defaultValue =>
    rw [writtenType.eq_def]
    cases items <;> rfl

end Schema

/-- **The type of the values under a key**, as it is written. -/
theorem text_typeExpr (dates : DateType) (key : Text) (s : Schema) :
    (typeExpr dates key s).text = s.writtenType dates key := by
  induction s using Schema.induction with
  | h s hi _ =>
    rw [typeExpr_eq, Schema.writtenType_eq]
    unfold Schema.shape
    cases s.stringEnum? with
    | some values => rfl
    | none =>
      cases s.type with
      | none => rfl
      | some type =>
        simp only [Option.isSome_none, Bool.false_eq_true, if_false, Option.map_some,
          Option.getD_some, Option.some.injEq]
        unfold Schema.shapeOfType
        -- the conditions are the same on both sides, but for the one on dates
        split_ifs with _ hformat hdate hdate
        · rw [hdate.2]
          rfl
        · cases dates with
          | date => exact absurd ⟨hformat, rfl⟩ hdate
          | string => rfl
        · exact absurd hdate.1 hformat
        · rfl
        · rfl
        · rfl
        · cases hitems : s.items with
          | none => rfl
          | some item => exact congrArg (· ++ Text.ofString "[]") (hi item hitems)
        · rfl
        · rfl
        · rfl

/-! ## Visited parts -/

namespace Schema

theorem sizeOf_lt_of_mem_parts {key : Text} {s : Schema} {p : Text × Schema}
    (h : p ∈ s.parts key) : sizeOf p.2 < sizeOf s := by
  obtain ⟨title, description, type, format, properties, required, enumeration, items, readOnly,
    defaultValue⟩ := s
  rcases mem_parts h with hitem | ⟨members, hmembers, hmem⟩
  · obtain rfl : items = some p.2 := hitem
    simp +arith
  · obtain rfl : properties = some members := hmembers
    have hmember := List.sizeOf_lt_of_mem hmem
    have hpart : sizeOf p.2 < sizeOf p := by
      cases p
      simp +arith
    simp +arith
    omega

/-- A schema under a key and all that is below it, in the order in which they are declared: the
parts of a schema, in the order of their keys, before the schema. -/
def visited (key : Text) (s : Schema) : List (Text × Schema) :=
  ((s.parts key).attach.flatMap fun p => p.1.2.visited p.1.1) ++ [(key, s)]
termination_by sizeOf s
decreasing_by exact sizeOf_lt_of_mem_parts p.2

theorem visited_eq (key : Text) (s : Schema) :
    s.visited key = ((s.parts key).flatMap fun p => p.2.visited p.1) ++ [(key, s)] := by
  rw [visited, List.flatMap_subtype (g := fun p => p.2.visited p.1) fun _ _ => rfl,
    List.unattach_attach]

/-- The parts that are visited are all that is below a schema. -/
theorem perm_visited_reached (s : Schema) : ∀ key, (s.visited key).Perm (reached key s) := by
  induction s using Schema.induction with
  | h s hi hp =>
    intro key
    have hparts : ((s.parts key).flatMap fun p => p.2.visited p.1).Perm
        ((s.parts key).flatMap fun p => reached p.1 p.2) := by
      refine List.Perm.flatMap_left _ fun p hpart => ?_
      rcases mem_parts hpart with hitem | ⟨members, hmembers, hmem⟩
      · exact hi p.2 hitem p.1
      · exact hp members hmembers p hmem p.1
    rw [visited_eq, reached_eq]
    exact List.perm_append_comm.trans (hparts.cons _)

/-- The parts of a schema whose own type has a name, all in the order in which they are visited. -/
def descendants (s : Schema) : List (Text × Schema) :=
  (s.properties.getD []).flatMap fun m => m.2.visited m.1

end Schema

/-! ## Additions part by part -/

/-- A relation of the declarations before and after some parts are visited, which holds of every
step and of steps in a row. -/
structure Accumulates (dates : DateType)
    (R : Declarations → Declarations → List (Text × Schema) → Prop) : Prop where
  refl : ∀ d, R d d []
  trans : ∀ {d d' d'' ps qs}, R d d' ps → R d' d'' qs → R d d'' (ps ++ qs)
  enumeration : ∀ d key {s : Schema} {values}, s.shape = .enumeration values →
    R d (d.addEnum ⟨typeNameOf key s.title, enumMembers values, describe s.description⟩) [(key, s)]
  record : ∀ d before key {s : Schema} {members}, s.shape = .record →
    s.properties = some members →
      R d (d.addType ⟨typeNameOf key s.title, (resolveAll dates s.required members before).1,
        describe s.description⟩) [(key, s)]
  other : ∀ d key {s : Schema}, (∀ values, s.shape ≠ .enumeration values) → s.shape ≠ .record →
    R d d [(key, s)]

namespace Accumulates

variable {dates : DateType} {R : Declarations → Declarations → List (Text × Schema) → Prop}

theorem resolveAll_of_forall (h : Accumulates dates R) {members : List (Text × Schema)}
    (hm : ∀ m ∈ members, ∀ d, R d (resolve dates m.1 m.2 d).2 (m.2.visited m.1))
    (required : Option (List Text)) (d : Declarations) :
    R d (SchemaTypes.resolveAll dates required members d).2
      (members.flatMap fun m => m.2.visited m.1) := by
  induction members generalizing d with
  | nil =>
    rw [SchemaTypes.resolveAll]
    exact h.refl d
  | cons m members ih =>
    rw [SchemaTypes.resolveAll, List.flatMap_cons]
    exact h.trans (hm m List.mem_cons_self d)
      (ih (fun a ha => hm a (List.mem_cons_of_mem m ha)) _)

/-- **A step into a schema** visits its parts. -/
theorem resolve (h : Accumulates dates R) (s : Schema) :
    ∀ key d, R d (SchemaTypes.resolve dates key s d).2 (s.visited key) := by
  induction s using Schema.induction with
  | h s hi hp =>
    intro key d
    rw [resolve_eq, Schema.visited_eq]
    cases hshape : s.shape with
    | enumeration values =>
      rw [Schema.parts_of_other (by simp [hshape]) (by simp [hshape])]
      exact h.enumeration d key hshape
    | array =>
      have hown := fun d => h.other d key (s := s) (by simp [hshape]) (by simp [hshape])
      rw [Schema.parts_of_array hshape, List.flatMap_map]
      cases hitems : s.items with
      | none => exact hown d
      | some item =>
        rw [Option.toList_some, List.flatMap_singleton]
        exact h.trans (hi item hitems key d) (hown _)
    | record =>
      obtain ⟨members, hmembers⟩ := Schema.exists_properties_of_record hshape
      rw [Schema.parts_of_record hshape, hmembers]
      have hparts := h.resolveAll_of_forall
        (fun m hm => hp members hmembers m hm m.1) s.required d
      exact h.trans hparts (h.record _ d key hshape hmembers)
    | _ =>
      rw [Schema.parts_of_other (by simp [hshape]) (by simp [hshape])]
      exact h.other d key (by simp [hshape]) (by simp [hshape])

theorem resolveAll (h : Accumulates dates R) (required : Option (List Text))
    (members : List (Text × Schema)) (d : Declarations) :
    R d (SchemaTypes.resolveAll dates required members d).2
      (members.flatMap fun m => m.2.visited m.1) :=
  h.resolveAll_of_forall (fun m _ => h.resolve m.2 m.1) required d

end Accumulates

/-! ## Signatures -/

/-- A property without its initializer; its type is written. -/
structure PropertySignature where
  key : Text
  type : Text
  optional : Bool
  readOnly : Bool
  description : Option Text
deriving DecidableEq, Repr

/-- A type without the initializers of its properties. -/
structure TypeSignature where
  name : Text
  properties : List PropertySignature
  description : Option Text
deriving DecidableEq, Repr

/-- A property without its initializer. -/
def Property.signature (p : Property) : PropertySignature :=
  ⟨p.key, p.type.text, p.optional, p.readOnly, p.description⟩

/-- A type without the initializers of its properties. -/
def TypeDeclaration.signature (t : TypeDeclaration) : TypeSignature :=
  ⟨t.name, t.properties.map Property.signature, t.description⟩

namespace Schema

/-- The property for a schema under a key, given the keys that are required. -/
def propertySignature (dates : DateType) (required : List Text) (key : Text) (s : Schema) :
    PropertySignature :=
  ⟨key, s.writtenType dates key, !required.contains key, s.readOnly, describe s.description⟩

/-- The type of a schema: one property for each key. -/
def typeSignature (dates : DateType) (name : Text) (s : Schema) : TypeSignature :=
  ⟨name, (s.properties.getD []).map fun m =>
    m.2.propertySignature dates (s.required.getD []) m.1, describe s.description⟩

/-- The type that a schema under a key is declared as, if it is an object with properties. -/
def typeSignature? (dates : DateType) (key : Text) (s : Schema) : Option TypeSignature :=
  if s.stringEnum? = none ∧ s.type = some ("object" : Text) ∧ s.hasProperties then
    some (s.typeSignature dates (typeNameOf key s.title))
  else none

/-- The enumeration that a schema under a key is declared as, if it is one. -/
def enumDeclaration? (key : Text) (s : Schema) : Option EnumDeclaration :=
  s.stringEnum?.map fun values =>
    ⟨typeNameOf key s.title, enumMembers values, describe s.description⟩

variable {s : Schema} {key : Text}

theorem typeSignature?_of_record (h : s.shape = .record) {dates : DateType} :
    s.typeSignature? dates key = some (s.typeSignature dates (typeNameOf key s.title)) :=
  if_pos (shape_eq_record_iff.mp h)

theorem typeSignature?_of_other (h : s.shape ≠ .record) {dates : DateType} :
    s.typeSignature? dates key = none :=
  if_neg (mt shape_eq_record_iff.mpr h)

theorem enumDeclaration?_of_enumeration {values : List Text} (h : s.shape = .enumeration values) :
    s.enumDeclaration? key =
      some ⟨typeNameOf key s.title, enumMembers values, describe s.description⟩ := by
  unfold enumDeclaration?
  rw [shape_eq_enumeration_iff.mp h]
  rfl

theorem enumDeclaration?_of_other (h : ∀ values, s.shape ≠ .enumeration values) :
    s.enumDeclaration? key = none := by
  unfold enumDeclaration?
  cases henum : s.stringEnum? with
  | none => rfl
  | some values => exact absurd (shape_eq_enumeration_iff.mpr henum) (h values)

end Schema

/-- The types among parts, as they are declared. -/
def typesOf (dates : DateType) (parts : List (Text × Schema)) : List TypeSignature :=
  parts.filterMap fun p => p.2.typeSignature? dates p.1

/-- The enumerations among parts, as they are declared. -/
def enumsOf (parts : List (Text × Schema)) : List EnumDeclaration :=
  parts.filterMap fun p => p.2.enumDeclaration? p.1

/-- The types of a schema whose own type has the name, in the order in which they are declared. -/
def Schema.listedTypes (dates : DateType) (name : Text) (s : Schema) : List TypeSignature :=
  typesOf dates s.descendants ++ if s.hasProperties then [s.typeSignature dates name] else []

/-- The enumerations of a schema in the order in which they are declared. -/
def Schema.listedEnums (s : Schema) : List EnumDeclaration :=
  enumsOf s.descendants

/-- **The properties of schemas under their keys.** -/
theorem map_signature_resolveAll (dates : DateType) (required : Option (List Text))
    (members : List (Text × Schema)) (d : Declarations) :
    (resolveAll dates required members d).1.map Property.signature =
      members.map fun m => m.2.propertySignature dates (required.getD []) m.1 := by
  induction members generalizing d with
  | nil => rw [resolveAll, List.map_nil, List.map_nil]
  | cons m members ih =>
    rw [resolveAll, List.map_cons, List.map_cons, ih, fst_resolve]
    congr 1
    unfold Property.ofSchema Property.signature Schema.propertySignature
    dsimp only
    rw [text_typeExpr]

/-! ## Additions -/

/-- The last of some values that has the name. -/
def lastNamed {α : Type} (nameOf : α → Text) (values : List α) (name : Text) : Option α :=
  (values.filter (nameOf · = name)).getLast?

theorem lastNamed_append {α : Type} (nameOf : α → Text) (l m : List α) (name : Text) :
    lastNamed nameOf (l ++ m) name = (lastNamed nameOf m name).or (lastNamed nameOf l name) := by
  unfold lastNamed
  rw [List.filter_append, List.getLast?_append]

theorem lastNamed_singleton {α : Type} (nameOf : α → Text) (a : α) (name : Text) :
    lastNamed nameOf [a] name = if nameOf a = name then some a else none := by
  unfold lastNamed
  rw [List.filter_singleton]
  split_ifs <;> simp_all

/-- Declarations are added in the order of a list: under each name the last of them is found, or
else what was found before. -/
structure Declarations.Gains (d d' : Declarations) (types : List TypeSignature)
    (enums : List EnumDeclaration) : Prop where
  types : ∀ name, (Table.get? d'.types name).map TypeDeclaration.signature =
    (lastNamed TypeSignature.name types name).or
      ((Table.get? d.types name).map TypeDeclaration.signature)
  enums : ∀ name, Table.get? d'.enums name =
    (lastNamed EnumDeclaration.name enums name).or (Table.get? d.enums name)

namespace Declarations.Gains

variable {d d' d'' : Declarations} {types types' : List TypeSignature}
  {enums enums' : List EnumDeclaration}

theorem refl (d : Declarations) : d.Gains d [] [] :=
  ⟨fun _ => rfl, fun _ => rfl⟩

theorem trans (h : d.Gains d' types enums) (h' : d'.Gains d'' types' enums') :
    d.Gains d'' (types ++ types') (enums ++ enums') where
  types name := by rw [h'.types, h.types, lastNamed_append, Option.or_assoc]
  enums name := by rw [h'.enums, h.enums, lastNamed_append, Option.or_assoc]

theorem addType (d : Declarations) (t : TypeDeclaration) :
    d.Gains (d.addType t) [t.signature] [] where
  types name := by
    rw [lastNamed_singleton]
    show (Table.get? (Table.insert t.name t d.types) name).map _ = _
    rw [Table.get?_insert]
    show _ = Option.or (if t.name = name then _ else _) _
    split_ifs <;> rfl
  enums name := rfl

theorem addEnum (d : Declarations) (e : EnumDeclaration) :
    d.Gains (d.addEnum e) [] [e] where
  types name := rfl
  enums name := by
    rw [lastNamed_singleton]
    show Table.get? (Table.insert e.name e d.enums) name = _
    rw [Table.get?_insert]
    split_ifs <;> rfl

end Declarations.Gains

/-! ## Additions of a schema -/

theorem typesOf_append (dates : DateType) (ps qs : List (Text × Schema)) :
    typesOf dates (ps ++ qs) = typesOf dates ps ++ typesOf dates qs :=
  List.filterMap_append

theorem enumsOf_append (ps qs : List (Text × Schema)) :
    enumsOf (ps ++ qs) = enumsOf ps ++ enumsOf qs :=
  List.filterMap_append

theorem typesOf_singleton (dates : DateType) (key : Text) (s : Schema) :
    typesOf dates [(key, s)] = (s.typeSignature? dates key).toList :=
  rfl

theorem enumsOf_singleton (key : Text) (s : Schema) :
    enumsOf [(key, s)] = (s.enumDeclaration? key).toList :=
  rfl

theorem signature_resolveAll (dates : DateType) {s : Schema} {members : List (Text × Schema)}
    (hproperties : s.properties = some members) (name : Text) (d : Declarations) :
    TypeDeclaration.signature
      ⟨name, (resolveAll dates s.required members d).1, describe s.description⟩ =
        s.typeSignature dates name := by
  unfold TypeDeclaration.signature Schema.typeSignature
  dsimp only
  rw [map_signature_resolveAll, hproperties]
  rfl

/-- **A step into a schema** adds what its parts declare, in their order. -/
theorem accumulates_gains (dates : DateType) :
    Accumulates dates fun d d' ps => d.Gains d' (typesOf dates ps) (enumsOf ps) where
  refl d := .refl d
  trans h h' := by
    rw [typesOf_append, enumsOf_append]
    exact h.trans h'
  enumeration d key s values hshape := by
    rw [typesOf_singleton, enumsOf_singleton, Schema.typeSignature?_of_other (by simp [hshape]),
      Schema.enumDeclaration?_of_enumeration hshape]
    exact .addEnum d _
  record d before key s members hshape hmembers := by
    rw [typesOf_singleton, enumsOf_singleton, Schema.typeSignature?_of_record hshape,
      Schema.enumDeclaration?_of_other (by simp [hshape]), ← signature_resolveAll dates hmembers]
    exact .addType d _
  other d key s henum hrecord := by
    rw [typesOf_singleton, enumsOf_singleton, Schema.typeSignature?_of_other hrecord,
      Schema.enumDeclaration?_of_other henum]
    exact .refl d

/-- A schema whose own type has a name adds what its parts declare, and the type comes last. -/
theorem gains_ofSchema (dates : DateType) (name : Text) (s : Schema) :
    ({} : Declarations).Gains (Declarations.ofSchema dates name s) (s.listedTypes dates name)
      s.listedEnums := by
  unfold Declarations.ofSchema Schema.listedTypes Schema.listedEnums Schema.descendants
    Schema.hasProperties
  cases hmembers : s.properties with
  | none => exact .refl _
  | some members =>
    cases members with
    | nil => exact .refl _
    | cons m members =>
      have hown := (accumulates_gains dates).resolveAll s.required (m :: members) {}
      have hadd := hown.trans (.addType _
        ⟨name, (resolveAll dates s.required (m :: members) {}).1, describe s.description⟩)
      rw [signature_resolveAll dates hmembers, List.append_nil] at hadd
      exact hadd

/-! ## Keys in order -/

theorem mem_of_lastNamed {α : Type} {nameOf : α → Text} {values : List α} {name : Text} {a : α}
    (h : lastNamed nameOf values name = some a) : a ∈ values :=
  (List.mem_filter.mp (List.mem_of_getLast? h)).1

namespace Schema.Ordered

variable {s : Schema}

theorem of_mem_visited (h : s.Ordered) {key : Text} {q : Text × Schema}
    (hq : q ∈ s.visited key) : q.2.Ordered := by
  have hreach := mem_reached_iff.mp ((s.perm_visited_reached key).mem_iff.mp hq)
  clear hq
  induction hreach with
  | refl => exact h
  | tail _ hpart ih =>
    obtain ⟨hitems, _, hmembers⟩ := ih
    rcases mem_parts hpart with hitem | ⟨members, hm, hmem⟩
    · exact hitems _ hitem
    · exact hmembers members hm _ hmem

theorem of_mem_descendants (h : s.Ordered) {q : Text × Schema} (hq : q ∈ s.descendants) :
    q.2.Ordered := by
  obtain ⟨_, _, hmembers⟩ := h
  obtain ⟨m, hm, hq⟩ := List.mem_flatMap.mp hq
  cases hproperties : s.properties with
  | none =>
    rw [hproperties] at hm
    exact absurd hm List.not_mem_nil
  | some members =>
    rw [hproperties] at hm
    exact (hmembers members hproperties m hm).of_mem_visited hq

theorem pairwise_keys (h : s.Ordered) (dates : DateType) (name : Text) :
    ((s.typeSignature dates name).properties.map PropertySignature.key).Pairwise (· < ·) := by
  obtain ⟨_, hkeys, _⟩ := h
  unfold typeSignature
  dsimp only
  rw [List.map_map]
  cases hproperties : s.properties with
  | none => exact List.Pairwise.nil
  | some members => exact hkeys members hproperties

theorem pairwise_of_mem_listedTypes (h : s.Ordered) {dates : DateType} {name : Text}
    {t : TypeSignature} (ht : t ∈ s.listedTypes dates name) :
    (t.properties.map PropertySignature.key).Pairwise (· < ·) := by
  rcases List.mem_append.mp ht with ht | ht
  · obtain ⟨q, hq, hsignature⟩ := List.mem_filterMap.mp ht
    unfold typeSignature? at hsignature
    split_ifs at hsignature
    obtain rfl := Option.some.inj hsignature
    exact (h.of_mem_descendants hq).pairwise_keys dates _
  · split_ifs at ht
    · obtain rfl := List.mem_singleton.mp ht
      exact h.pairwise_keys dates name
    · exact absurd ht List.not_mem_nil

end Schema.Ordered

/-- **The declarations of a schema** are those that are listed last under their names. The written
type of a property is the same whatever has been declared before, and every type has its keys in
order. -/
theorem declarations_eq_listing (dates : DateType) (name : Text) {s : Schema} (h : s.Ordered) :
    (∀ (key : Text) (part : Schema) (d : Declarations),
        (resolve dates key part d).1.text = part.writtenType dates key) ∧
      (∀ n, (Table.get? (Declarations.ofSchema dates name s).types n).map
          TypeDeclaration.signature =
        lastNamed TypeSignature.name (s.listedTypes dates name) n) ∧
      (∀ n, Table.get? (Declarations.ofSchema dates name s).enums n =
        lastNamed EnumDeclaration.name s.listedEnums n) ∧
      Table.Ascending (Declarations.ofSchema dates name s).types ∧
      Table.Ascending (Declarations.ofSchema dates name s).enums ∧
      ∀ t ∈ (Declarations.ofSchema dates name s).types.values,
        (t.properties.map Property.key).Pairwise (· < ·) := by
  have hgains := gains_ofSchema dates name s
  have hfiled := filed_ofSchema dates name s
  have htypes : ∀ n, (Table.get? (Declarations.ofSchema dates name s).types n).map
      TypeDeclaration.signature = lastNamed TypeSignature.name (s.listedTypes dates name) n := by
    intro n
    rw [hgains.types]
    exact Option.or_none
  refine ⟨fun key part d => ?_, htypes, fun n => ?_, hfiled.types, hfiled.enums, fun t ht => ?_⟩
  · rw [fst_resolve, text_typeExpr]
  · rw [hgains.enums]
    exact Option.or_none
  · obtain ⟨entry, hentry, rfl⟩ := List.mem_map.mp ht
    have hget := htypes entry.1
    rw [Table.get?_of_mem hfiled.types.nodup_keys hentry] at hget
    have hkeys := h.pairwise_of_mem_listedTypes (mem_of_lastNamed hget.symm)
    have hmap : (entry.2.signature.properties.map PropertySignature.key) =
        entry.2.properties.map Property.key := by
      unfold TypeDeclaration.signature
      rw [List.map_map]
      rfl
    rwa [hmap] at hkeys

/-! ## A listing with a name in it twice -/

/-- A type with two others below it that have one name. -/
def zooSchema : Text :=
  ("\x7b\"type\":\"object\",\"properties\":\x7b\"all\":\x7b\"type\":\"array\"," : Text) ++
    "\"items\":\x7b\"title\":\"pet\",\"type\":\"object\",\"properties\":\x7b" ++
    "\"born\":\x7b\"type\":\"string\",\"format\":\"date\"\x7d\x7d\x7d\x7d,\"pet\":\x7b" ++
    "\"type\":\"object\",\"required\":[\"kind\"],\"properties\":\x7b\"kind\":\x7b" ++
    "\"enum\":[\"dog\"],\"readOnly\":true\x7d\x7d\x7d\x7d\x7d"

set_option maxRecDepth 100000 in
/-- The one that is visited last is kept. -/
theorem last_pet_kept :
    ∃ s, Schema.ofText zooSchema = .ok s ∧ s.Ordered ∧
      (s.listedTypes .date "Zoo").map TypeSignature.name =
        [("Pet" : Text), ("Pet" : Text), ("Zoo" : Text)] ∧
      (Table.get? (Declarations.ofSchema .date "Zoo" s).types "Pet").map
          TypeDeclaration.signature =
        some ⟨"Pet", [⟨"kind", "Kind", false, true, none⟩], none⟩ := by
  have hlisted : (Schema.ofText zooSchema).map (fun s => s.listedTypes .date "Zoo") =
      .ok [⟨"Pet", [⟨"born", "Date", true, false, none⟩], none⟩,
        ⟨"Pet", [⟨"kind", "Kind", false, true, none⟩], none⟩,
        ⟨"Zoo", [⟨"all", "Pet[]", true, false, none⟩, ⟨"pet", "Pet", true, false, none⟩],
          none⟩] := by
    cbv
  obtain ⟨s, hs, hlisted'⟩ := exists_of_map_eq_ok hlisted
  have hordered := Schema.ordered_ofText hs
  have hkept := (declarations_eq_listing .date "Zoo" hordered).2.1 "Pet"
  rw [hlisted'] at hkept
  refine ⟨s, hs, hordered, ?_, hkept.trans ?_⟩
  · rw [hlisted']
    rfl
  · unfold lastNamed
    cbv

end SchemaTypes
