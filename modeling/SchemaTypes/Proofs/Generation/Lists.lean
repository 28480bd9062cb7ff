import SchemaTypes.Proofs.Declaration.Expression
import SchemaTypes.Proofs.Generation.Initializers

/-!
# Lists that properties are initialized to

A property whose type is one of lists is initialized to its default as it stands, if this is a list.
What is in the list is not looked at: it has the type of the elements only if the default has it.

* `Schema.DefaultFits`: the default of a property of lists is of its type.
* `Outline.forall_properties_iff`: from the properties of classes to those of schemas.
* **`listInitializers_typed_iff`**: when all lists are of the types of their properties.
-/

namespace SchemaTypes

/-! ## Defaults that fit -/

section Fits

variable (dates : DateType) (enums : Table EnumDeclaration)
  (other : TypeExpr → Expression → Prop)

/-- If the type of a property is one of lists and its default is a list, the default consists of
lists down to the depth of the type, and what there is at this depth are literals of the innermost
type. -/
def Schema.DefaultFits (m : Text × Schema) : Prop :=
  ∀ element, typeExpr dates m.1 m.2 = .array element →
    ∀ value ∈ m.2.defaultValue, value.isArray →
      value.AllAt (Json.IsLiteralOf enums other element.base) (element.depth + 1)

/-- If the type of a property is one of lists, its initializer is of the type. -/
def Property.ListTyped (p : Property) : Prop :=
  ∀ element, p.type = .array element → ∀ i ∈ p.initializer,
    i.expression.HasType enums other p.type

variable {dates enums other} in
theorem Property.MadeFrom.listTyped_iff {required : Option (List Text)} {m : Text × Schema}
    {p : Property} (h : p.MadeFrom dates required m) :
    p.ListTyped enums other ↔ Schema.DefaultFits dates enums other m := by
  unfold Property.ListTyped Schema.DefaultFits
  rw [h.type_eq]
  refine forall_congr' fun element => forall_congr' fun htype => ?_
  rw [h.initializer_eq_of_array (h.type_eq.trans htype), htype]
  simp only [Option.mem_def, Option.map_eq_some_iff, Option.filter_eq_some_iff]
  constructor
  · intro hall value hvalue harray
    exact (hasType_ofJson_iff _ value).mp (hall _ ⟨value, ⟨hvalue, harray⟩, rfl⟩)
  · rintro hall _ ⟨value, ⟨hvalue, harray⟩, rfl⟩
    exact (hasType_ofJson_iff _ value).mpr (hall value hvalue harray)

end Fits

/-! ## Properties of classes -/

/-- **From the properties of the types to those of the schemas** that they are made from: if a
condition on a property is one on its schema, it holds of all properties of the types with certain
names exactly if it holds of all schemas of properties. -/
theorem Outline.forall_properties_iff {dates : DateType} {o : Outline} {sch : Schema}
    (h : o.declarations = .ofSchema dates o.root sch) (hfiled : o.declarations.Filed)
    {C : Text → Prop} {P : Property → Prop} {Q : Text × Schema → Prop}
    (hPQ : ∀ required m p, Property.MadeFrom dates required m p → (P p ↔ Q m)) :
    (∀ t ∈ o.types, C t.name → ∀ p ∈ t.properties, P p) ↔
      ∀ name part, sch.origin? o.root name = some part → C name →
        ∀ m ∈ part.properties.getD [], Q m := by
  constructor
  · intro hall name part hpart hC m hm
    obtain ⟨t, ht, hmade⟩ := get?_of_origin? hpart dates
    rw [← h] at ht
    obtain ⟨hwritten, rfl⟩ := (mem_types_iff hfiled).mpr ht
    obtain ⟨p, hp, hproperty⟩ := hmade.exists_property hm
    exact (hPQ _ m p hproperty).mp (hall t hwritten hC p hp)
  · intro hall t ht hC p hp
    obtain ⟨part, hpart, hmade⟩ := exists_origin h hfiled ht
    obtain ⟨m, hm, hproperty⟩ := hmade.exists_schema hp
    exact (hPQ _ m p hproperty).mpr (hall t.name part hpart hC m hm)

/-- **When lists are of the types of their properties**: an initializer of a property of lists is a
list in every class. All of them are of the types of their properties if and only if, for every
property of lists whose default is a list, the default consists of lists down to the depth of the
type and what there is at this depth are literals of the innermost type. What literals there are of
types that are no strings, numbers, booleans, dates or enumerations may be told in any way. -/
theorem listInitializers_typed_iff {s : Settings} {schema : Text} {sink : Sink}
    (hgen : (generate s schema sink).failure = none) (other : TypeExpr → Expression → Prop) :
    ∃ sch o, Schema.ofText schema = .ok sch ∧ Outline.ofText s.dateType schema = .ok o ∧
      (generate s schema sink).output = Text.utf8 (unlines (preambleLines s.index ++
        moduleLines s.moduleName (Text.trimEnd
          (unlines (o.definitions.flatMap (Definition.lines s) ++ remainderLines s.index))))) ∧
      (∀ t ∈ o.types, (s.styleOf t.name).isClass → ∀ p ∈ t.properties,
        ∀ element, p.type = .array element → ∀ i ∈ p.initializer,
          i.text <:+: memberLine (s.styleOf t.name) s.readOnlyKeywords p ∧
            ∃ items, i.expression = .array items ∧ i.text = (Expression.array items).text) ∧
      ((∀ t ∈ o.types, (s.styleOf t.name).isClass → ∀ p ∈ t.properties,
          p.ListTyped o.declarations.enums other) ↔
        ∀ name part, sch.origin? o.root name = some part → (s.styleOf name).isClass →
          ∀ m ∈ part.properties.getD [],
            Schema.DefaultFits s.dateType o.declarations.enums other m) := by
  obtain ⟨o, ho, hout⟩ := output_of_failure_eq_none hgen
  have hfiled := Outline.filed_of_ofText ho
  obtain ⟨sch, hsch, _, ho', _⟩ := Outline.exists_schema_of_ofText ho
  have hdeclarations : o.declarations = .ofSchema s.dateType o.root sch := by
    rw [ho']
  refine ⟨sch, o, hsch, ho, ?_, fun t ht hclass p hp element htype i hi => ?_,
    Outline.forall_properties_iff (C := fun name => (s.styleOf name).isClass) hdeclarations hfiled
      fun _ _ _ hp => hp.listTyped_iff⟩
  · rw [hout, documentText, document, Outline.body_eq_definitions]
  · refine ⟨p.initializer_infix_memberLine hclass s.readOnlyKeywords hi, ?_⟩
    obtain ⟨part, _, hmade⟩ := Outline.exists_origin hdeclarations hfiled ht
    obtain ⟨m, _, hproperty⟩ := hmade.exists_schema hp
    rw [hproperty.initializer_eq_of_array htype] at hi
    obtain ⟨value, hvalue, rfl⟩ := Option.map_eq_some_iff.mp hi
    obtain ⟨_, harray⟩ := Option.filter_eq_some_iff.mp hvalue
    cases value with
    | array vs =>
      have hexpression : (Initializer.literal (.array vs)).expression =
          .array (vs.map .ofJson) := by
        rw [Initializer.expression, Expression.ofJson, Expression.ofItems_eq_map]
      refine ⟨vs.map .ofJson, hexpression, ?_⟩
      rw [← hexpression, Initializer.text_expression]
    | _ => exact absurd harray Bool.false_ne_true

/-! ## Lists of numbers -/

/-- The schema of a list of lists of numbers with a default. -/
def cellsSchema : Schema :=
  { type := some "array"
    items := some { type := some "array", items := some { type := some "number" } }
    defaultValue := some (.array [.array [.number (.integer 1)], .array []]) }

/-- A class with such a list. -/
def boardSchema : Text :=
  ("\x7b\"type\":\"object\",\"title\":\"Board\",\"properties\":\x7b\"cells\":\x7b" : Text) ++
    "\"type\":\"array\",\"items\":\x7b\"type\":\"array\",\"items\":\x7b\"type\":\"number\"" ++
    "\x7d\x7d,\"default\":[[1],[]]\x7d\x7d\x7d"

/-- A class with a list of numbers whose default holds a string. -/
def scoresSchema : Text :=
  ("\x7b\"type\":\"object\",\"title\":\"Pet\",\"properties\":\x7b\"a\":\x7b" : Text) ++
    "\"type\":\"array\",\"items\":\x7b\"type\":\"number\"\x7d,\"default\":[\"x\"]\x7d\x7d\x7d"

set_option maxRecDepth 100000 in
/-- The list of the board is of its type. -/
theorem board_typed :
    (generate classSettings boardSchema {}).failure = none ∧
      ∃ o, Outline.ofText .date boardSchema = .ok o ∧
        (o.types.flatMap fun t => t.properties.map fun p =>
          (p.type, p.initializer.map Initializer.text)) =
            [(TypeExpr.array (.array .number), some ("[[1],[]]" : Text))] ∧
        ∀ t ∈ o.types, ∀ p ∈ t.properties,
          p.ListTyped o.declarations.enums fun _ _ => False := by
  have hmembers : (Schema.ofText boardSchema).map (fun sch =>
      ((sch.listedParts (rootName sch.title)).map Prod.snd).flatMap fun part =>
        part.properties.getD []) = .ok [("cells", cellsSchema)] := by
    cbv
  have hwritten : (Outline.ofText .date boardSchema).map (fun o =>
      o.types.flatMap fun t => t.properties.map fun p =>
        (p.type, p.initializer.map Initializer.text)) =
          .ok [(TypeExpr.array (.array .number), some ("[[1],[]]" : Text))] := by
    cbv
  obtain ⟨o', ho', hwritten'⟩ := exists_of_map_eq_ok hwritten
  have hgen : (generate classSettings boardSchema {}).failure = none := failure_generate ho' rfl
  obtain ⟨sch, o, hsch, ho, _, _, hiff⟩ := listInitializers_typed_iff hgen fun _ _ => False
  obtain rfl : o' = o := Except.ok.inj (ho'.symm.trans ho)
  refine ⟨hgen, o', ho', hwritten', fun t ht => hiff.mpr ?_ t ht rfl⟩
  intro name part hpart _ m hm
  obtain ⟨sch', hsch', hlisted⟩ := exists_of_map_eq_ok hmembers
  obtain rfl : sch = sch' := Except.ok.inj (hsch.symm.trans hsch')
  obtain ⟨sch', hsch', _, ho'', _⟩ := Outline.exists_schema_of_ofText ho'
  obtain rfl : sch = sch' := Except.ok.inj (hsch.symm.trans hsch')
  rw [ho''] at hpart
  have hmem : m ∈ ((sch.listedParts (rootName sch.title)).map Prod.snd).flatMap fun part =>
      part.properties.getD [] :=
    List.mem_flatMap.mpr ⟨part, Schema.mem_listedParts_of_origin? hpart, hm⟩
  rw [hlisted] at hmem
  obtain rfl := List.mem_singleton.mp hmem
  have htype : typeExpr .date "cells" cellsSchema = .array (.array .number) := by cbv
  intro element helement value hvalue _
  obtain rfl := TypeExpr.array.inj (htype.symm.trans helement)
  obtain rfl := Option.some.inj hvalue
  simp [Json.AllAt, TypeExpr.depth, TypeExpr.base, Json.IsLiteralOf, Json.isNumber]

set_option maxRecDepth 100000 in
/-- The list of the scores is not: whatever else is a literal of what type, a string is none of a
number. -/
theorem scores_untyped :
    (generate classSettings scoresSchema {}).failure = none ∧
      ∃ o, Outline.ofText .date scoresSchema = .ok o ∧
        ∃ t ∈ o.types, (classSettings.styleOf t.name).isClass ∧
          ∃ p ∈ t.properties, p.type = .array .number ∧
            ∃ i, p.initializer = some i ∧ i.text = ("[\"x\"]" : Text) ∧
              ∀ other, ¬i.expression.HasType o.declarations.enums other (.array .number) := by
  have hwritten : (Outline.ofText .date scoresSchema).map (fun o =>
      o.types.map fun t => t.properties.map fun p => (p.type, p.initializer)) =
        .ok [[(.array .number, some (.literal (.array [.string "x"])))]] := by
    cbv
  obtain ⟨o, ho, hwritten'⟩ := exists_of_map_eq_ok hwritten
  obtain ⟨t, htypes, ht⟩ := List.map_eq_singleton_iff.mp hwritten'
  obtain ⟨p, hproperties, hp⟩ := List.map_eq_singleton_iff.mp ht
  obtain ⟨htype, hinitializer⟩ := Prod.mk.inj hp
  refine ⟨failure_generate ho rfl, o, ho, t, ?_, rfl, p, ?_, htype, _, hinitializer, ?_,
    fun other h => ?_⟩
  · rw [htypes]
    exact List.mem_singleton_self t
  · rw [hproperties]
    exact List.mem_singleton_self p
  · cbv
  · have hall := (hasType_ofJson_iff _ _).mp h
    rcases hall (.string "x") (List.mem_singleton_self _) with
      ⟨h, _⟩ | ⟨_, h⟩ | ⟨h, _⟩ | ⟨h | h | ⟨_, h, _⟩, _⟩ <;>
      simp [TypeExpr.base, Json.isNumber] at h

end SchemaTypes
