import Mathlib
import SchemaTypes.Proofs.Declaration.Listing
import SchemaTypes.Proofs.Declaration.Members
import SchemaTypes.Proofs.Declaration.Sound
import SchemaTypes.Proofs.Generation.Distinct
import SchemaTypes.Proofs.Text.Digits

/-!
# Digits in front of names

No name in a document begins with a digit of ASCII. Which ones begin with a digit of another script
is told by the titles, keys and values that they are made from.

* `Outline.writtenNames`: the names of all enumerations, types and members of a document.
* `Outline.ownNames`, `Schema.ownNames`: the names that are declared, and where they come from.
* `mem_ownNames_iff`: every name that a part of the schema has is declared.
* `Schema.nameSources`: what the names of types and enumerations are made from.
* **`names_without_digits_iff`**: when no name begins with a digit of any script.
-/

namespace SchemaTypes

/-! ## Names that are declared -/

/-- The names of what is declared, without what a base has behind its name. -/
def Outline.ownNames (o : Outline) : List Text :=
  o.definitions.map fun w => w.site.label.2

namespace Schema

/-- Is the schema declared under a name, as an enumeration or as a type? -/
def isNamed (s : Schema) : Bool :=
  s.stringEnum?.isSome || (s.type = some ("object" : Text) && s.hasProperties)

/-- The names of a schema's own type and of all its parts that are declared. -/
def ownNames (s : Schema) : List Text :=
  rootName s.title ::
    (s.descendants.filter fun p => p.2.isNamed).map fun p => typeNameOf p.1 p.2.title

end Schema

theorem isSome_lastNamed_iff {α : Type} {nameOf : α → Text} {values : List α} {name : Text} :
    (lastNamed nameOf values name).isSome = true ↔ name ∈ values.map nameOf := by
  unfold lastNamed
  rw [List.getLast?_isSome, Ne, List.filter_eq_nil_iff]
  simp

theorem mem_map_iff_of_lastNamed {α β : Type} {entries : List α} {nameOf : α → Text}
    {found : Option α} {g : α → β} {values : List β} {nameOf' : β → Text} {n : Text}
    (hfound : ∀ a, (a ∈ entries ∧ nameOf a = n) ↔ found = some a)
    (hlast : found.map g = lastNamed nameOf' values n) :
    n ∈ entries.map nameOf ↔ n ∈ values.map nameOf' := by
  have hsome : (lastNamed nameOf' values n).isSome = true ↔ n ∈ values.map nameOf' :=
    isSome_lastNamed_iff
  rw [← hsome, ← hlast, Option.isSome_map, Option.isSome_iff_exists, List.mem_map]
  exact exists_congr hfound

section OwnNames

variable {dates : DateType} {schema : Text} {sch : Schema} {o : Outline}

theorem mem_typeNames_iff (hfiled : o.declarations.Filed)
    (ho : o.declarations = Declarations.ofSchema dates (rootName sch.title) sch) {n : Text} :
    n ∈ o.types.map TypeDeclaration.name ↔
      n ∈ (sch.listedTypes dates (rootName sch.title)).map TypeSignature.name := by
  have hgains := (gains_ofSchema dates (rootName sch.title) sch).types n
  rw [← ho] at hgains
  exact mem_map_iff_of_lastNamed (g := TypeDeclaration.signature)
    (fun t => Outline.mem_types_iff hfiled) (hgains.trans Option.or_none)

theorem mem_enumNames_iff (hfiled : o.declarations.Filed)
    (ho : o.declarations = Declarations.ofSchema dates (rootName sch.title) sch) {n : Text} :
    n ∈ o.declarations.enums.values.map EnumDeclaration.name ↔
      n ∈ sch.listedEnums.map EnumDeclaration.name := by
  have hgains := (gains_ofSchema dates (rootName sch.title) sch).enums n
  rw [← ho] at hgains
  refine mem_map_iff_of_lastNamed (g := id)
    (fun e => Table.mem_values_iff hfiled.enums hfiled.enumName) ?_
  rw [Option.map_id]
  exact hgains.trans Option.or_none

/-- **The names that are declared** are those that the schema and its parts have. -/
theorem mem_ownNames_iff (hfiled : o.declarations.Filed)
    (ho : o.declarations = Declarations.ofSchema dates (rootName sch.title) sch)
    (hproperties : sch.hasProperties = true) {n : Text} :
    n ∈ o.ownNames ↔ n ∈ sch.ownNames := by
  have hown : o.ownNames =
      o.declarations.enums.values.map EnumDeclaration.name ++ o.types.map TypeDeclaration.name := by
    unfold Outline.ownNames Outline.definitions
    rw [List.map_append, List.map_map, List.map_map]
    rfl
  rw [hown, List.mem_append, mem_typeNames_iff hfiled ho, mem_enumNames_iff hfiled ho]
  unfold Schema.listedTypes Schema.listedEnums typesOf enumsOf Schema.ownNames
  rw [if_pos hproperties]
  simp only [List.map_append, List.mem_append, List.mem_map, List.mem_filterMap, List.mem_filter,
    List.mem_cons, List.not_mem_nil, or_false]
  constructor
  · rintro (⟨e, ⟨p, hp, he⟩, rfl⟩ | ⟨sig, ⟨p, hp, hsig⟩, rfl⟩ | ⟨sig, rfl, rfl⟩)
    · right
      obtain ⟨values, hvalues, rfl⟩ := Option.map_eq_some_iff.mp he
      exact ⟨p, ⟨hp, by simp [Schema.isNamed, hvalues]⟩, rfl⟩
    · right
      unfold Schema.typeSignature? at hsig
      split_ifs at hsig with hrecord
      obtain rfl := Option.some.inj hsig
      exact ⟨p, ⟨hp, by simp [Schema.isNamed, hrecord.2]⟩, rfl⟩
    · exact .inl rfl
  · rintro (rfl | ⟨p, ⟨hp, hnamed⟩, rfl⟩)
    · exact .inr (.inr ⟨_, rfl, rfl⟩)
    · cases henum : p.2.stringEnum? with
      | some values =>
        left
        refine ⟨⟨typeNameOf p.1 p.2.title, enumMembers values, describe p.2.description⟩,
          ⟨p, hp, ?_⟩, rfl⟩
        unfold Schema.enumDeclaration?
        rw [henum]
        rfl
      | none =>
        right
        left
        have hrecord : p.2.type = some ("object" : Text) ∧ p.2.hasProperties = true := by
          simpa [Schema.isNamed, henum] using hnamed
        exact ⟨_, ⟨p, hp, if_pos ⟨henum, hrecord⟩⟩, rfl⟩

theorem exists_members_eq (hfiled : o.declarations.Filed)
    (ho : o.declarations = Declarations.ofSchema dates (rootName sch.title) sch)
    {e : EnumDeclaration} (he : e ∈ o.declarations.enums.values) :
    ∃ values, e.members = enumMembers values := by
  have hget := (Table.mem_values_iff hfiled.enums hfiled.enumName).mp ⟨he, rfl⟩
  have hgains := (gains_ofSchema dates (rootName sch.title) sch).enums e.name
  rw [← ho, hget] at hgains
  have hlisted : lastNamed EnumDeclaration.name sch.listedEnums e.name = some e := by
    simpa [Table.get?] using hgains.symm
  obtain ⟨p, _, hp⟩ := List.mem_filterMap.mp (mem_of_lastNamed hlisted)
  obtain ⟨values, _, rfl⟩ := Option.map_eq_some_iff.mp hp
  exact ⟨values, rfl⟩

end OwnNames

/-! ## Names that are written -/

/-- The names of all enumerations, types and members as they are written. -/
def Outline.writtenNames (s : Settings) (o : Outline) : List Text :=
  o.definitions.map (Definition.name s) ++
    o.declarations.enums.values.flatMap fun e => e.members.map EnumMember.name

/-- The values of all members that are written. -/
def Outline.writtenValues (o : Outline) : List Text :=
  o.declarations.enums.values.flatMap fun e => e.members.map EnumMember.value

/-- The texts that the names of a schema's own type and of its parts are made from. -/
def Schema.nameSources (s : Schema) : List Text :=
  s.title.toList ++
    (s.descendants.filter fun p => p.2.isNamed).map fun p => typeSource p.1 p.2.title

/-- A definition is written under its own name, with which that of a base begins. -/
theorem Definition.exists_name_eq (s : Settings) (w : Definition) :
    ∃ r, w.name s = w.site.label.2 ++ r := by
  cases w with
  | enum e => exact ⟨[], (List.append_nil _).symm⟩
  | type t =>
    by_cases hext : s.index.isExtended t.name = true
    · exact ⟨"Base", if_pos hext⟩
    · exact ⟨[], (if_neg hext).trans (List.append_nil _).symm⟩

theorem exists_member_name_eq {values : List Text} {m : EnumMember} (h : m ∈ enumMembers values) :
    ∃ r, m.name = memberName m.value ++ r := by
  refine ⟨m.name.dropWhile (· ≠ '_'), ?_⟩
  rw [← takeWhile_name_enumMembersFrom h, List.takeWhile_append_dropWhile]

/-- **No name of a schema begins with a digit** if what the names are made from leads with none of
another script. -/
theorem forall_ownNames_iff (s : Schema) :
    (∀ n ∈ s.ownNames, startsWithDecimal n = false) ↔
      ∀ t ∈ s.nameSources, leadsForeign t = false := by
  unfold Schema.ownNames Schema.nameSources
  rw [List.forall_mem_cons, List.forall_mem_append, List.forall_mem_map, List.forall_mem_map]
  refine and_congr ?_ (forall₂_congr fun p _ => ?_)
  · rw [startsWithDecimal_rootName]
    cases s.title <;> simp
  · rw [startsWithDecimal_typeNameOf]

section WrittenNames

variable {s : Settings} {o : Outline}

/-- **What begins with a digit** begins so in a document if it does where it is declared. -/
theorem startsWithDecimal_name {w : Definition} (h : w.site.label.2 ≠ []) :
    startsWithDecimal (w.name s) = startsWithDecimal w.site.label.2 := by
  obtain ⟨r, hr⟩ := w.exists_name_eq s
  rw [hr, startsWithDecimal_append h]

theorem startsWithDecimal_member {values : List Text} {m : EnumMember}
    (h : m ∈ enumMembers values) : startsWithDecimal m.name = leadsForeign m.value := by
  obtain ⟨r, hr⟩ := exists_member_name_eq h
  rw [hr, startsWithDecimal_append (memberName_ne_nil _), startsWithDecimal_memberName]

theorem Outline.typeName_of_mem_definitions (hsound : o.declarations.Sound) {w : Definition}
    (hw : w ∈ o.definitions) : TypeName w.site.label.2 := by
  rcases List.mem_append.mp hw with hw | hw
  · obtain ⟨e, he, rfl⟩ := List.mem_map.mp hw
    obtain ⟨entry, hentry, rfl⟩ := List.mem_map.mp he
    exact (hsound.enums entry hentry).name
  · obtain ⟨t, ht, rfl⟩ := List.mem_map.mp hw
    obtain ⟨key, hkey⟩ := Outline.mem_declarations_of_mem_types ht
    exact (hsound.types _ hkey).name

/-- **No name is empty or begins with a digit of ASCII.** -/
theorem Outline.ne_nil_of_mem_writtenNames (hsound : o.declarations.Sound)
    (hmembers : ∀ e ∈ o.declarations.enums.values, ∃ values, e.members = enumMembers values)
    {name : Text} (hname : name ∈ o.writtenNames s) :
    name ≠ [] ∧ startsWithDigit name = false := by
  rcases List.mem_append.mp hname with hname | hname
  · obtain ⟨w, hw, rfl⟩ := List.mem_map.mp hname
    have htype := Outline.typeName_of_mem_definitions hsound hw
    obtain ⟨r, hr⟩ := w.exists_name_eq s
    rw [hr, startsWithDigit_append htype.nonempty]
    exact ⟨List.append_ne_nil_of_left_ne_nil htype.nonempty r, htype.no_digit⟩
  · obtain ⟨e, he, hname⟩ := List.mem_flatMap.mp hname
    obtain ⟨m, hm, rfl⟩ := List.mem_map.mp hname
    obtain ⟨values, hvalues⟩ := hmembers e he
    rw [hvalues] at hm
    obtain ⟨r, hr⟩ := exists_member_name_eq hm
    have hne := memberName_ne_nil m.value
    rw [hr, startsWithDigit_append hne]
    exact ⟨List.append_ne_nil_of_left_ne_nil hne r, startsWithDigit_memberName m.value⟩

end WrittenNames

/-! ## Documents -/

/-- **When no name begins with a digit of any script.** No name of an enumeration, a type or a
member is empty or begins with a digit of ASCII. None begins with a digit of another script if and
only if no such digit is the first letter or number of the title of the schema, of the title or key
that gives one of its parts a name, or of the value of a member. -/
theorem names_without_digits_iff {s : Settings} {schema : Text} {sink : Sink}
    (hgen : (generate s schema sink).failure = none) :
    ∃ sch o, Schema.ofText schema = .ok sch ∧ Outline.ofText s.dateType schema = .ok o ∧
      (generate s schema sink).output = Text.utf8 (unlines (preambleLines s.index ++
        moduleLines s.moduleName (Text.trimEnd
          (unlines (o.definitions.flatMap (Definition.lines s) ++ remainderLines s.index))))) ∧
      (∀ name ∈ o.writtenNames s, name ≠ [] ∧ startsWithDigit name = false) ∧
      ((∀ name ∈ o.writtenNames s, name ≠ [] ∧ startsWithDecimal name = false) ↔
        ∀ t ∈ sch.nameSources ++ o.writtenValues, leadsForeign t = false) := by
  obtain ⟨o, ho, hout⟩ := output_of_failure_eq_none hgen
  obtain ⟨sch, hsch, _, ho', hne⟩ := Outline.exists_schema_of_ofText ho
  have hproperties : sch.hasProperties = true := by
    rw [ho'] at hne
    exact hasProperties_of_ofSchema hne
  have hdeclarations : o.declarations =
      Declarations.ofSchema s.dateType (rootName sch.title) sch := by
    rw [ho']
  have hfiled := Outline.filed_of_ofText ho
  have hsound := Outline.sound_of_ofText ho
  have hmembers : ∀ e ∈ o.declarations.enums.values, ∃ values, e.members = enumMembers values :=
    fun e he => exists_members_eq hfiled hdeclarations he
  have hnames : ∀ name ∈ o.writtenNames s, name ≠ [] ∧ startsWithDigit name = false :=
    fun name h => Outline.ne_nil_of_mem_writtenNames hsound hmembers h
  refine ⟨sch, o, hsch, ho, ?_, hnames, ?_⟩
  · rw [hout, documentText, document, Outline.body_eq_definitions]
  have hown : (∀ name ∈ o.definitions.map (Definition.name s), startsWithDecimal name = false) ↔
      ∀ t ∈ sch.nameSources, leadsForeign t = false := by
    rw [← forall_ownNames_iff, List.forall_mem_map]
    have hmem : (∀ n ∈ sch.ownNames, startsWithDecimal n = false) ↔
        ∀ n ∈ o.ownNames, startsWithDecimal n = false :=
      forall_congr' fun n => imp_congr_left (mem_ownNames_iff hfiled hdeclarations hproperties).symm
    rw [hmem, Outline.ownNames, List.forall_mem_map]
    refine forall₂_congr fun w hw => ?_
    rw [startsWithDecimal_name (Outline.typeName_of_mem_definitions hsound hw).nonempty]
  have hvalues : (∀ name ∈ o.declarations.enums.values.flatMap fun e =>
      e.members.map EnumMember.name, startsWithDecimal name = false) ↔
        ∀ v ∈ o.writtenValues, leadsForeign v = false := by
    unfold Outline.writtenValues
    simp only [List.forall_mem_flatMap, List.forall_mem_map]
    refine forall₂_congr fun e he => forall₂_congr fun m hm => ?_
    obtain ⟨values, hvalues⟩ := hmembers e he
    rw [hvalues] at hm
    rw [startsWithDecimal_member hm]
  rw [List.forall_mem_append, ← hown, ← hvalues, ← List.forall_mem_append]
  refine forall₂_congr fun name h => ?_
  exact and_iff_right (hnames name h).1

/-! ## Names with and without digits -/

/-- A title and a value that begin with digits of ASCII. -/
def pointSchema : Text :=
  ("\x7b\"type\":\"object\",\"title\":\"3d point\",\"properties\":\x7b" : Text) ++
    "\"kind\":\x7b\"enum\":[\"2nd\"]\x7d\x7d\x7d"

/-- A title that begins with a digit of another script. -/
def foreignSchema : Text :=
  ("\x7b\"type\":\"object\",\"title\":\"٣d\",\"properties\":\x7b" : Text) ++
    "\"a\":\x7b\"type\":\"string\"\x7d\x7d\x7d"

set_option maxRecDepth 100000 in
/-- No name begins with a digit. -/
theorem point_without_digits :
    (generate {} pointSchema {}).failure = none ∧
      ∃ sch o, Schema.ofText pointSchema = .ok sch ∧ Outline.ofText .date pointSchema = .ok o ∧
        sch.nameSources = ["3d point", "kind"] ∧ o.writtenValues = ["2nd"] ∧
        o.writtenNames {} = ["Kind", "T3dPoint", "E2nd"] ∧
        ∀ name ∈ o.writtenNames {}, name ≠ [] ∧ startsWithDecimal name = false := by
  have hsources : (Schema.ofText pointSchema).map Schema.nameSources =
      .ok ["3d point", "kind"] := by
    cbv
  have hwritten : (Outline.ofText .date pointSchema).map
      (fun o => (o.writtenValues, o.writtenNames {})) =
        .ok (["2nd"], ["Kind", "T3dPoint", "E2nd"]) := by
    cbv
  obtain ⟨o', ho', hwritten'⟩ := exists_of_map_eq_ok hwritten
  obtain ⟨hvalues, hnames⟩ := Prod.mk.inj hwritten'
  have hgen : (generate {} pointSchema {}).failure = none := failure_generate ho' rfl
  obtain ⟨sch, o, hsch, ho, _, _, hiff⟩ := names_without_digits_iff hgen
  obtain rfl : o' = o := Except.ok.inj (ho'.symm.trans ho)
  rw [hsch] at hsources
  have hsources' : sch.nameSources = ["3d point", "kind"] := Except.ok.inj hsources
  refine ⟨hgen, sch, o', hsch, ho', hsources', hvalues, hnames, hiff.mpr ?_⟩
  rw [hsources', hvalues]
  decide +kernel

set_option maxRecDepth 100000 in
/-- The name of the type begins with the digit. -/
theorem foreign_digit_written :
    (generate {} foreignSchema {}).failure = none ∧
      (generate {} foreignSchema {}).output =
        Text.utf8 (("// Generated by json-schema-ts. Do not edit manually.\n\n" : Text) ++
          "export interface ٣d \x7b\n    a?: string;\n\x7d\n") ∧
      ∃ o, Outline.ofText .date foreignSchema = .ok o ∧ ("٣d" : Text) ∈ o.writtenNames {} ∧
        startsWithDecimal "٣d" = true := by
  have hout : (generate {} foreignSchema {}).output =
      Text.utf8 (("// Generated by json-schema-ts. Do not edit manually.\n\n" : Text) ++
        "export interface ٣d \x7b\n    a?: string;\n\x7d\n") := by
    cbv
  have hnames : (Outline.ofText .date foreignSchema).map (Outline.writtenNames {}) =
      .ok ["٣d"] := by
    cbv
  obtain ⟨o, ho, hnames'⟩ := exists_of_map_eq_ok hnames
  refine ⟨failure_generate ho rfl, hout, o, ho, ?_, by decide +kernel⟩
  rw [hnames']
  exact List.mem_singleton_self _

end SchemaTypes
