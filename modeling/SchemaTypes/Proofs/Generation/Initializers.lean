import SchemaTypes.Proofs.Declaration.Origins
import SchemaTypes.Proofs.Generation.Block
import SchemaTypes.Proofs.Generation.Distinct

/-!
# What initializers refer to

A property whose schema is an enumeration is initialized to a member of its own enumeration. What
the document has under the name of that is the enumeration that was declared last; so the member is
there exactly if that has it as well.

* `Property.initializer_infix_memberLine`: where the initializer of a property stands.
* `Outline.Resolves`: the initializer of a property refers to a member for the default.
* `resolves_iff`: when it does.
* **`initializers_resolve_iff`**: when all initializers of classes do.
-/

namespace SchemaTypes

/-! ## Initializers in lines -/

theorem Property.initializer_infix_memberLine {style : Style} (h : style.isClass = true)
    (keywords : Bool) {p : Property} {i : Initializer} (hi : p.initializer = some i) :
    i.text <:+: memberLine style keywords p := by
  have htail : i.text <:+: memberTail p style := by
    unfold memberTail
    cases style with
    | interface => exact absurd h nofun
    | plainClass =>
      unfold assignment
      rw [hi]
      exact ⟨presenceMark p ++ ": " ++ p.type.text ++ " = ", [], by simp⟩
    | observableClass =>
      have hcall : i.text <:+: observableCall p := by
        unfold observableCall argument
        rw [hi]
        split
        · exact ⟨_, _, rfl⟩
        · exact ⟨_, _, rfl⟩
      exact hcall.trans (List.suffix_append _ _).isInfix
  exact htail.trans ⟨_, _, rfl⟩

/-! ## Members that are referred to -/

/-- If a property of a schema is initialized to a member of an enumeration, the document has one
enumeration of that name, this has a member of that name, and its value is the default. -/
def Outline.Resolves (o : Outline) (s : Schema) (p : Property) : Prop :=
  ∀ enumeration name, p.initializer = some (.member enumeration name) →
    ∃ e, (∀ e', .enum e' ∈ o.definitions ∧ e'.name = enumeration ↔ e' = e) ∧
      ∃ m ∈ e.members, m.name = name ∧ s.defaultValue = some (.string m.value)

namespace Outline

variable {dates : DateType} {o : Outline} {sch : Schema}

theorem get?_enums_of_eq (h : o.declarations = .ofSchema dates o.root sch) (name : Text) :
    Table.get? o.declarations.enums name =
      lastNamed EnumDeclaration.name sch.listedEnums name := by
  rw [h, (gains_ofSchema dates o.root sch).enums]
  exact Option.or_none

theorem nodup_values_of_get?_enums (h : o.declarations = .ofSchema dates o.root sch) {name : Text}
    {e : EnumDeclaration} (he : Table.get? o.declarations.enums name = some e) :
    (e.members.map EnumMember.value).Nodup := by
  rw [get?_enums_of_eq h] at he
  obtain ⟨q, _, hq⟩ := List.mem_filterMap.mp (mem_of_lastNamed he)
  exact nodup_values_of_enumDeclaration? hq

theorem exists_origin (h : o.declarations = .ofSchema dates o.root sch)
    (hfiled : o.declarations.Filed) {t : TypeDeclaration} (ht : t ∈ o.types) :
    ∃ part, sch.origin? o.root t.name = some part ∧ t.MadeFrom dates part := by
  have hget := (mem_types_iff hfiled).mp ⟨ht, rfl⟩
  rw [h] at hget
  exact origin?_of_get? hget

/-- **When an initializer refers to a member for the default**: if the enumeration that is kept has
for it the member that the own one has. -/
theorem resolves_iff (h : o.declarations = .ofSchema dates o.root sch)
    (hfiled : o.declarations.Filed) {required : Option (List Text)} {m : Text × Schema}
    {p : Property} (hp : p.MadeFrom dates required m) (henum : m.2.stringEnum?.isSome) :
    o.Resolves m.2 p ↔ sch.KeepsDefault m := by
  unfold Resolves Schema.KeepsDefault
  rw [hp.initializer_eq henum]
  cases hmember : m.2.defaultMember? m.1 with
  | none => exact ⟨fun _ => nofun, fun _ => nofun⟩
  | some d =>
    obtain ⟨own, member⟩ := d
    have hdefault := Schema.defaultValue_of_defaultMember? hmember
    constructor
    · intro hresolves d hd
      obtain rfl := Option.some.inj hd
      obtain ⟨e, he, ⟨name, value⟩, hmem, rfl, hvalue⟩ := hresolves own member.name rfl
      have hget := (enum_mem_definitions_iff hfiled).mp ((he e).mpr rfl)
      have hnodup := nodup_values_of_get?_enums h hget
      obtain rfl := Json.string.inj (Option.some.inj (hvalue.symm.trans hdefault))
      rw [← get?_enums_of_eq h, hget]
      exact (EnumDeclaration.member?_eq_some_iff hnodup).mpr ⟨hmem, rfl⟩
    · intro hkeeps enumeration name heq
      obtain ⟨rfl, rfl⟩ := Initializer.member.inj (Option.some.inj heq)
      obtain ⟨e, he, hkept⟩ := Option.bind_eq_some_iff.mp (hkeeps _ rfl)
      rw [← get?_enums_of_eq h] at he
      have hnodup := nodup_values_of_get?_enums h he
      have hmem := (EnumDeclaration.member?_eq_some_iff hnodup).mp hkept
      refine ⟨e, fun e' => ?_, member, hmem.1, rfl, hdefault⟩
      rw [enum_mem_definitions_iff hfiled, he, Option.some.injEq]
      exact eq_comm

end Outline

/-! ## Initializers of classes -/

/-- **When no initializer dangles**: the initializers of all properties of classes whose schemas are
enumerations refer to members for the defaults if and only if, under the name of each of these
enumerations, the one that is declared last has the same member for the default. -/
theorem initializers_resolve_iff {s : Settings} {schema : Text} {sink : Sink}
    (hgen : (generate s schema sink).failure = none) :
    ∃ sch o, Schema.ofText schema = .ok sch ∧ Outline.ofText s.dateType schema = .ok o ∧
      (generate s schema sink).output = Text.utf8 (unlines (preambleLines s.index ++
        moduleLines s.moduleName (Text.trimEnd
          (unlines (o.definitions.flatMap (Definition.lines s) ++ remainderLines s.index))))) ∧
      (∀ t ∈ o.types, ∃ part, sch.origin? o.root t.name = some part ∧
        t.MadeFrom s.dateType part ∧
          ((s.styleOf t.name).isClass → ∀ p ∈ t.properties, ∀ i ∈ p.initializer,
            i.text <:+: memberLine (s.styleOf t.name) s.readOnlyKeywords p)) ∧
      ((∀ t ∈ o.types, (s.styleOf t.name).isClass →
          ∀ part, sch.origin? o.root t.name = some part → ∀ p ∈ t.properties,
            ∀ own, (p.key, own) ∈ part.properties.getD [] → own.stringEnum?.isSome →
              o.Resolves own p) ↔
        ∀ name part, sch.origin? o.root name = some part → (s.styleOf name).isClass →
          ∀ m ∈ part.properties.getD [], sch.KeepsDefault m) := by
  obtain ⟨o, ho, hout⟩ := output_of_failure_eq_none hgen
  have hfiled := Outline.filed_of_ofText ho
  obtain ⟨sch, hsch, _, ho', _⟩ := Outline.exists_schema_of_ofText ho
  have hdeclarations : o.declarations = .ofSchema s.dateType o.root sch := by
    rw [ho']
  refine ⟨sch, o, hsch, ho, ?_, fun t ht => ?_, ?_, ?_⟩
  · rw [hout, documentText, document, Outline.body_eq_definitions]
  · obtain ⟨part, hpart, hmade⟩ := Outline.exists_origin hdeclarations hfiled ht
    exact ⟨part, hpart, hmade,
      fun hclass p _ i hi => p.initializer_infix_memberLine hclass s.readOnlyKeywords hi⟩
  · intro h name part hpart hclass m hm
    obtain ⟨t, ht, hmade⟩ := get?_of_origin? hpart s.dateType
    rw [← hdeclarations] at ht
    obtain ⟨hwritten, rfl⟩ := (Outline.mem_types_iff hfiled).mpr ht
    obtain ⟨p, hp, hproperty⟩ := hmade.exists_property hm
    cases henum : m.2.stringEnum? with
    | none => exact Schema.keepsDefault_of_stringEnum?_eq_none henum sch
    | some values =>
      have hsome := Option.isSome_of_eq_some henum
      rw [← Outline.resolves_iff hdeclarations hfiled hproperty hsome]
      refine h t hwritten hclass part hpart p hp m.2 ?_ hsome
      rw [hproperty.key_eq]
      exact hm
  · intro h t ht hclass part hpart p hp own hown henum
    obtain ⟨part', hpart', hmade⟩ := Outline.exists_origin hdeclarations hfiled ht
    obtain rfl := Option.some.inj (hpart'.symm.trans hpart)
    obtain ⟨⟨key, m⟩, hm, hproperty⟩ := hmade.exists_schema hp
    -- a key has one schema, so the property is made from the one that is given
    have hordered := (Schema.ordered_ofText hsch).of_origin? hpart
    rw [hproperty.key_eq] at hown
    obtain rfl := hordered.property_unique hm hown
    rw [Outline.resolves_iff hdeclarations hfiled hproperty henum]
    exact h t.name part' hpart hclass _ hm

/-! ## Two enumerations of one name -/

/-- A class with two enumerations of one name. -/
def shelterSchema : Text :=
  ("\x7b\"type\":\"object\",\"title\":\"Shelter\",\"properties\":\x7b\"first\":\x7b" : Text) ++
    "\"title\":\"Kind\",\"enum\":[\"dog\",\"cat\"],\"default\":\"cat\"\x7d,\"second\":\x7b" ++
    "\"title\":\"Kind\",\"enum\":[\"cat\"]\x7d\x7d\x7d"

/-- A class with two enumerations of one name, and a default that the later one does not have. -/
def strandedSchema : Text :=
  ("\x7b\"type\":\"object\",\"title\":\"Pet\",\"properties\":\x7b\"a\":\x7b" : Text) ++
    "\"title\":\"Kind\",\"enum\":[\"x\",\"y\"],\"default\":\"x\"\x7d,\"b\":\x7b" ++
    "\"title\":\"Kind\",\"enum\":[\"z\"]\x7d\x7d\x7d"

/-- Settings by which all types are classes. -/
def classSettings : Settings :=
  { style := .plainClass }

set_option maxRecDepth 100000 in
/-- The member for the default is in the enumeration that is kept. -/
theorem shelter_resolved :
    (generate classSettings shelterSchema {}).failure = none ∧
      ∃ sch o, Schema.ofText shelterSchema = .ok sch ∧
        Outline.ofText .date shelterSchema = .ok o ∧
        (o.types.flatMap fun t => t.properties.map Property.initializer) =
          [some (.member "Kind" "Cat"), none] ∧
        ∀ t ∈ o.types, ∀ part, sch.origin? o.root t.name = some part → ∀ p ∈ t.properties,
          ∀ own, (p.key, own) ∈ part.properties.getD [] → own.stringEnum?.isSome →
            o.Resolves own p := by
  have hinitializers : (Outline.ofText .date shelterSchema).map
      (fun o => o.types.flatMap fun t => t.properties.map Property.initializer) =
        .ok [some (.member "Kind" "Cat"), none] := by
    cbv
  have hkeeps : (Schema.ofText shelterSchema).map (fun sch =>
      ((sch.listedParts (rootName sch.title)).map Prod.snd).all fun part =>
        (part.properties.getD []).all fun m => sch.KeepsDefault m) = .ok true := by
    cbv
  obtain ⟨o', ho', hinitializers'⟩ := exists_of_map_eq_ok hinitializers
  have hgen : (generate classSettings shelterSchema {}).failure = none := failure_generate ho' rfl
  obtain ⟨sch, o, hsch, ho, _, _, hiff⟩ := initializers_resolve_iff hgen
  obtain rfl : o' = o := Except.ok.inj (ho'.symm.trans ho)
  refine ⟨hgen, sch, o', hsch, ho', hinitializers', fun t ht => hiff.mpr ?_ t ht rfl⟩
  intro name part hpart _
  rw [hsch] at hkeeps
  have hall := Except.ok.inj hkeeps
  simp only [List.all_eq_true, decide_eq_true_eq] at hall
  obtain ⟨sch', hsch', _, ho'', _⟩ := Outline.exists_schema_of_ofText ho'
  obtain rfl : sch = sch' := Except.ok.inj (hsch.symm.trans hsch')
  rw [ho''] at hpart
  exact hall part (Schema.mem_listedParts_of_origin? hpart)

/-- The schema of the property that has the default. -/
def strandedKind : Schema :=
  { title := some "Kind"
    enumeration := some [.string "x", .string "y"]
    defaultValue := some (.string "x") }

set_option maxRecDepth 100000 in
/-- The member for the default is not in the enumeration that is kept. -/
theorem stranded_unresolved :
    (generate classSettings strandedSchema {}).failure = none ∧
      ∃ sch o, Schema.ofText strandedSchema = .ok sch ∧
        Outline.ofText .date strandedSchema = .ok o ∧
        ∃ t ∈ o.types, (classSettings.styleOf t.name).isClass ∧
          ∃ part, sch.origin? o.root t.name = some part ∧
            ∃ p ∈ t.properties, (p.key, strandedKind) ∈ part.properties.getD [] ∧
              strandedKind.stringEnum? = some [("x" : Text), ("y" : Text)] ∧
              p.initializer = some (.member "Kind" "X") ∧ ¬o.Resolves strandedKind p := by
  have horigin : (Schema.ofText strandedSchema).map (fun sch =>
      (sch.origin? "Pet" "Pet").map fun part => (part.properties.getD []).head?) =
        .ok (some (some ("a", strandedKind))) := by
    cbv
  have hwritten : (Outline.ofText .date strandedSchema).map (fun o =>
      (o.root, Table.get? o.declarations.enums "Kind", o.types.map fun t =>
        (t.name, (t.properties.map fun p => (p.key, p.initializer)).head?))) =
        .ok ("Pet", some ⟨"Kind", [⟨"Z", "z"⟩], none⟩,
          [("Pet", some ("a", some (.member "Kind" "X")))]) := by
    cbv
  obtain ⟨sch, hsch, horigin'⟩ := exists_of_map_eq_ok horigin
  obtain ⟨o, ho, hwritten'⟩ := exists_of_map_eq_ok hwritten
  obtain ⟨hroot, hrest⟩ := Prod.mk.inj hwritten'
  obtain ⟨henum, htypes⟩ := Prod.mk.inj hrest
  obtain ⟨t, htypes', ht⟩ := List.map_eq_singleton_iff.mp htypes
  obtain ⟨hname, hproperties⟩ := Prod.mk.inj ht
  obtain ⟨part, hpart, hhead⟩ := Option.map_eq_some_iff.mp horigin'
  rw [List.head?_map] at hproperties
  obtain ⟨p, hp, hp'⟩ := Option.map_eq_some_iff.mp hproperties
  obtain ⟨hkey, hinitializer⟩ := Prod.mk.inj hp'
  refine ⟨failure_generate ho rfl, sch, o, hsch, ho, t, ?_, rfl, part, ?_, p,
    List.mem_of_head? hp, ?_, ?_, hinitializer, ?_⟩
  · rw [htypes']
    exact List.mem_singleton_self t
  · rw [hroot, hname]
    exact hpart
  · rw [hkey]
    exact List.mem_of_head? hhead
  · cbv
  · intro h
    obtain ⟨e, he, m, hm, hmember, _⟩ := h "Kind" "X" hinitializer
    have hkept := (Outline.enum_mem_definitions_iff (Outline.filed_of_ofText ho)).mp
      ((he e).mpr rfl)
    obtain rfl := Option.some.inj (henum.symm.trans hkept)
    rw [List.mem_singleton.mp hm] at hmember
    simp only [Text.ofString_eq] at hmember
    exact absurd hmember (by decide)

end SchemaTypes
