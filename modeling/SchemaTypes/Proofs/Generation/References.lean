import SchemaTypes.Proofs.Declaration.Closed
import SchemaTypes.Proofs.Generation.Distinct
import SchemaTypes.Proofs.Generation.Layout

/-!
# What a document refers to

A document can be used by itself: every type that is written for a property is built in or declared
in the document.

* `Property.writtenType`: the type of a property in the line of a member.
* `Outline.Declares`: how a document declares a name.
* `declares_of_declarations`: it declares the names of all declarations.
* **`references_declared`**: the type of every property, without the brackets at its end, is built
  in or declared.
-/

namespace SchemaTypes

/-! ## Written types -/

namespace Property

/-- The type of a property as it is written in a style. What can be observed is a list by itself,
and the type of its elements is written. -/
def writtenType (style : Style) (p : Property) : Text :=
  match style, p.type with
  | .observableClass, .array element => element.text
  | _, type => type.text

theorem writtenType_infix_memberTail (style : Style) (p : Property) :
    p.writtenType style <:+: memberTail p style := by
  unfold writtenType memberTail
  cases style with
  | interface => exact (List.suffix_append _ _).isInfix
  | plainClass => exact ⟨_, _, rfl⟩
  | observableClass =>
    unfold observableCall
    cases p.type with
    | array element =>
      refine ⟨" = " ++ Text.ofString "ko.observableArray<", ">(" ++ (argument p ++ ")"), ?_⟩
      simp only [List.append_assoc]
    | _ =>
      refine ⟨" = " ++ Text.ofString "ko.observable<", ">(" ++ (argument p ++ ")"), ?_⟩
      simp only [List.append_assoc]

theorem writtenType_infix_memberLine (style : Style) (keywords : Bool) (p : Property) :
    p.writtenType style <:+: memberLine style keywords p :=
  (p.writtenType_infix_memberTail style).trans ⟨_, _, rfl⟩

theorem withoutBrackets_writtenType (style : Style) (p : Property) :
    withoutBrackets (p.writtenType style) = p.type.reference := by
  unfold writtenType TypeExpr.reference
  cases style <;> cases p.type with
  | array element => first | rfl | exact (withoutBrackets_append_pair element.text).symm
  | _ => rfl

end Property

/-! ## Names that a document declares -/

/-- A document declares a name: by an enumeration, by a type that is written under the name, or by
a class of the hand-written code that follows the type, which is written as its base. -/
inductive Outline.Declares (s : Settings) (o : Outline) (name : Text) : Prop
  | enum (e : EnumDeclaration) (he : .enum e ∈ o.definitions) (hname : e.name = name)
  | type (t : TypeDeclaration) (ht : .type t ∈ o.definitions) (hname : t.name = name)
      (hlines : (Definition.type t).lines s = typeBlock (s.styleOf name) s.readOnlyKeywords name t)
  | extended (t : TypeDeclaration) (ht : .type t ∈ o.definitions) (hname : t.name = name)
      (c : ClassSpan) (hc : c ∈ s.spans) (hclass : c.name = name)
      (hlines : (Definition.type t).lines s =
        typeBlock (s.styleOf name) s.readOnlyKeywords (baseName name) t ++
          [c.text s.handwritten, []])

namespace Outline

variable {s : Settings} {o : Outline}

theorem declares_of_mem_types (hs : s.Coherent) {t : TypeDeclaration}
    (ht : .type t ∈ o.definitions) : o.Declares s t.name := by
  have hlines := Definition.lines_type s t
  unfold typeLines at hlines
  rw [s.template_eq_styleOf, hs.index_eq, s.extension?_freshIndex] at hlines
  cases hspan : s.extensionSpan? t.name with
  | none =>
    rw [hspan] at hlines
    exact .type t ht rfl hlines
  | some c =>
    rw [hspan] at hlines
    obtain ⟨hc, hname⟩ := Settings.mem_spans_of_extensionSpan? hspan
    exact .extended t ht rfl c hc hname hlines

/-- **A document declares** the names of all declarations. -/
theorem declares_of_declarations (hs : s.Coherent) (hfiled : o.declarations.Filed) {name : Text}
    (h : o.declarations.Declares name) : o.Declares s name := by
  unfold Declarations.Declares at h
  rcases h with h | h
  · obtain ⟨e, he⟩ := Option.isSome_iff_exists.mp h
    obtain ⟨hdefinition, hname⟩ := (enum_mem_definitions_iff hfiled).mpr he
    exact .enum e hdefinition hname
  · obtain ⟨t, ht⟩ := Option.isSome_iff_exists.mp h
    obtain ⟨hwritten, rfl⟩ := (mem_types_iff hfiled).mpr ht
    have hdefinition : .type t ∈ o.definitions :=
      List.mem_append_right _ (List.mem_map_of_mem hwritten)
    exact declares_of_mem_types hs hdefinition

theorem closed_of_ofText {dates : DateType} {schema : Text} (h : ofText dates schema = .ok o) :
    o.declarations.Closed := by
  obtain ⟨sch, _, _, rfl, _⟩ := exists_schema_of_ofText h
  exact closed_ofSchema dates _ sch

end Outline

/-- **All references are declared**: without the brackets at its end the type of every property is
built in or a name that the document declares. -/
theorem references_declared {s : Settings} (hs : s.Coherent) {schema : Text} {sink : Sink}
    (hgen : (generate s schema sink).failure = none) :
    ∃ o, Outline.ofText s.dateType schema = .ok o ∧
      (generate s schema sink).output = Text.utf8 (unlines (preambleLines s.index ++
        moduleLines s.moduleName (Text.trimEnd
          (unlines (o.definitions.flatMap (Definition.lines s) ++ remainderLines s.index))))) ∧
      ∀ t ∈ o.types, ∀ p ∈ t.properties,
        p.writtenType (s.styleOf t.name) <:+:
            memberLine (s.styleOf t.name) s.readOnlyKeywords p ∧
          withoutBrackets (p.writtenType (s.styleOf t.name)) = withoutBrackets p.type.text ∧
          (withoutBrackets p.type.text ∈ TypeExpr.builtIn ∨
            o.Declares s (withoutBrackets p.type.text)) := by
  obtain ⟨o, ho, hout⟩ := output_of_failure_eq_none hgen
  refine ⟨o, ho, ?_, fun t ht p hp => ?_⟩
  · rw [hout, documentText, document, Outline.body_eq_definitions]
  · refine ⟨p.writtenType_infix_memberLine _ _, p.withoutBrackets_writtenType _, ?_⟩
    obtain ⟨key, hkey⟩ := Outline.mem_declarations_of_mem_types ht
    have hsound := ((Outline.sound_of_ofText ho).types _ hkey).properties p hp
    have hreference : withoutBrackets p.type.text = p.type.base.text :=
      TypeExpr.reference_eq_base hsound.type
    rw [hreference]
    rcases p.type.text_base_mem_builtIn with hbuiltin | ⟨name, hname⟩
    · exact .inl hbuiltin
    · right
      rw [hname]
      exact Outline.declares_of_declarations hs (Outline.filed_of_ofText ho)
        (Outline.closed_of_ofText ho _ hkey p hp name hname)

/-! ## A document with a class behind its base -/

/-- A type with a list of others, which have an enumeration. -/
def litterSchema : Text :=
  ("\x7b\"type\":\"object\",\"title\":\"Litter\",\"properties\":\x7b\"pets\":\x7b" : Text) ++
    "\"type\":\"array\",\"items\":\x7b\"type\":\"object\",\"title\":\"Pet\",\"properties\":\x7b" ++
    "\"kind\":\x7b\"enum\":[\"dog\"]\x7d\x7d\x7d\x7d\x7d\x7d"

/-- Pets are extended by a class. -/
def litterSettings : Settings :=
  { extensionCode := "class Pet extends PetBase \x7b\n\x7d\n"
    extendedClasses := some [("Pet" : Text)] }

set_option maxRecDepth 100000 in
/-- Pets and their kinds are declared. -/
theorem litter_declared :
    litterSettings.Coherent ∧ (generate litterSettings litterSchema {}).failure = none ∧
      ∃ o, Outline.ofText .date litterSchema = .ok o ∧
        (o.types.flatMap fun t => t.properties.map (·.type.text)) =
          [("Kind" : Text), ("Pet[]" : Text)] ∧
        o.Declares litterSettings "Kind" ∧ o.Declares litterSettings "Pet" := by
  have htexts : (Outline.ofText .date litterSchema).map
      (fun o => o.types.flatMap fun t => t.properties.map (·.type.text)) =
        .ok [("Kind" : Text), ("Pet[]" : Text)] := by
    cbv
  have hcoherent : litterSettings.Coherent := .of_index?_eq_none rfl
  obtain ⟨o', ho', htexts'⟩ := exists_of_map_eq_ok htexts
  have hgen : (generate litterSettings litterSchema {}).failure = none := failure_generate ho' rfl
  obtain ⟨o, ho, _, hall⟩ := references_declared hcoherent hgen
  obtain rfl : o' = o := Except.ok.inj (ho'.symm.trans ho)
  have hdeclared : ∀ written ∈ [("Kind" : Text), ("Pet[]" : Text)], ∀ name,
      withoutBrackets written = name → name ∉ TypeExpr.builtIn →
        o'.Declares litterSettings name := by
    rintro written hmem _ rfl hnot
    rw [← htexts'] at hmem
    obtain ⟨t, ht, hwritten⟩ := List.mem_flatMap.mp hmem
    obtain ⟨p, hp, rfl⟩ := List.mem_map.mp hwritten
    exact (hall t ht p hp).2.2.resolve_left hnot
  refine ⟨hcoherent, hgen, o', ho', htexts',
    hdeclared "Kind" List.mem_cons_self "Kind" (by cbv) ?_,
    hdeclared "Pet[]" (List.mem_cons_of_mem _ (List.mem_singleton_self _)) "Pet" (by cbv) ?_⟩ <;>
  · unfold TypeExpr.builtIn
    simp only [Text.ofString_eq]
    decide

end SchemaTypes
