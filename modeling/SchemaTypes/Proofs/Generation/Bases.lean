import SchemaTypes.Proofs.Generation.References

/-!
# What is written as a base

A type is written as a base if a class of the hand-written code extends it. The style of the type
does not count, so that an interface becomes the base of a class.

* `TypeDeclaration.IsBase`: a type is written as the base of its class.
* `isBase_iff`: the types that are.
* `isClass_styleOf_iff`: the types that are written as classes.
* **`bases_are_classes_iff`**: when all bases are classes.
-/

namespace SchemaTypes

/-! ## Bases -/

/-- A type is written under the name of its base, in its own style, and the class of the
hand-written code with the name of the type follows. -/
def TypeDeclaration.IsBase (s : Settings) (t : TypeDeclaration) : Prop :=
  ∃ c, s.index.class? t.name = some c ∧
    (Definition.type t).lines s =
      typeBlock (s.styleOf t.name) s.readOnlyKeywords (baseName t.name) t ++ [c.code, []]

theorem length_typeBlock (style : Style) (keywords : Bool) (name name' : Text)
    (t : TypeDeclaration) :
    (typeBlock style keywords name t).length = (typeBlock style keywords name' t).length := by
  cases style <;> simp [typeBlock, trailerLines, constructorLines]

theorem ExtensionIndex.class?_of_extension? {index : ExtensionIndex} {name : Text}
    {c : HandwrittenClass} (h : index.extension? name = some c) :
    index.class? name = some c := by
  unfold extension? at h
  split_ifs at h
  exact h

section Bases

variable {s : Settings} {t : TypeDeclaration}

theorem lines_of_not_extended (h : s.index.isExtended t.name = false) :
    (Definition.type t).lines s =
      typeBlock (s.styleOf t.name) s.readOnlyKeywords t.name t := by
  have hnone : s.index.extension? t.name = none := by
    apply Option.not_isSome_iff_eq_none.mp
    simpa [ExtensionIndex.isExtended] using h
  rw [Definition.lines_type, typeLines, hnone, s.template_eq_styleOf]

/-- **A type is written as a base** exactly if a class extends it. -/
theorem isBase_iff : t.IsBase s ↔ s.index.isExtended t.name = true := by
  constructor
  · rintro ⟨c, -, hlines⟩
    by_contra hext
    rw [lines_of_not_extended (by simpa using hext)] at hlines
    -- the class and the line behind it are missing
    have hlength := congrArg List.length hlines
    rw [List.length_append, length_typeBlock _ _ t.name (baseName t.name)] at hlength
    simp at hlength
  · intro hext
    obtain ⟨c, hc⟩ := Option.isSome_iff_exists.mp hext
    refine ⟨c, ExtensionIndex.class?_of_extension? hc, ?_⟩
    rw [Definition.lines_type, typeLines, hc, s.template_eq_styleOf]

/-- **A type is written as a class** if it is a class in any style or if the style is one of
classes. -/
theorem isClass_styleOf_iff (s : Settings) (name : Text) :
    (s.styleOf name).isClass = true ↔ s.isClassType name = true ∨ s.style.isClass = true := by
  unfold Settings.styleOf
  by_cases h : s.isClassType name = true
  · simp [h, Style.isClass]
  · simp [h]

end Bases

/-! ## Documents -/

/-- **When all bases are classes.** In every document the types that are written as bases, with
their classes behind them, are those that a class extends, and the others are written under their
own names. So they are the types that a class extends and that are written as classes if and only
if every type that a class extends is written as a class. -/
theorem bases_are_classes_iff {s : Settings} {schema : Text} {sink : Sink}
    (hgen : (generate s schema sink).failure = none) :
    ∃ o, Outline.ofText s.dateType schema = .ok o ∧
      (generate s schema sink).output = Text.utf8 (unlines (preambleLines s.index ++
        moduleLines s.moduleName (Text.trimEnd
          (unlines (o.definitions.flatMap (Definition.lines s) ++ remainderLines s.index))))) ∧
      (∀ t ∈ o.types,
        (t.IsBase s ↔ s.index.isExtended t.name = true) ∧
          (s.index.isExtended t.name = false → (Definition.type t).lines s =
            typeBlock (s.styleOf t.name) s.readOnlyKeywords t.name t)) ∧
      ((∀ t ∈ o.types,
          t.IsBase s ↔ s.index.isExtended t.name = true ∧ (s.styleOf t.name).isClass = true) ↔
        ∀ t ∈ o.types, s.index.isExtended t.name = true → (s.styleOf t.name).isClass = true) := by
  obtain ⟨o, ho, hout⟩ := output_of_failure_eq_none hgen
  refine ⟨o, ho, ?_, fun t _ => ⟨isBase_iff, lines_of_not_extended⟩, ?_⟩
  · rw [hout, documentText, document, Outline.body_eq_definitions]
  · refine forall₂_congr fun t _ => ?_
    rw [isBase_iff]
    tauto

/-! ## A class and an interface as bases -/

/-- Pets are extended by a class, and all types are classes. -/
def litterClassSettings : Settings :=
  { litterSettings with style := .plainClass }

set_option maxRecDepth 100000 in
theorem exists_litter_types : ∃ o, Outline.ofText .date litterSchema = .ok o ∧
    o.types.map TypeDeclaration.name = [("Pet" : Text), ("Litter" : Text)] := by
  have hnames : (Outline.ofText .date litterSchema).map
      (fun o => o.types.map TypeDeclaration.name) = .ok [("Pet" : Text), ("Litter" : Text)] := by
    cbv
  exact exists_of_map_eq_ok hnames

set_option maxRecDepth 100000 in
/-- Pets are written as a base, which is a class. -/
theorem litter_bases_are_classes :
    (generate litterClassSettings litterSchema {}).failure = none ∧
      ∃ o, Outline.ofText .date litterSchema = .ok o ∧
        o.types.map TypeDeclaration.name = [("Pet" : Text), ("Litter" : Text)] ∧
        litterClassSettings.index.isExtended "Pet" = true ∧
        ∀ t ∈ o.types, t.IsBase litterClassSettings ↔
          litterClassSettings.index.isExtended t.name = true ∧
            (litterClassSettings.styleOf t.name).isClass = true := by
  obtain ⟨o', ho', hnames⟩ := exists_litter_types
  have hgen : (generate litterClassSettings litterSchema {}).failure = none :=
    failure_generate ho' rfl
  obtain ⟨o, ho, _, _, hiff⟩ := bases_are_classes_iff hgen
  obtain rfl : o' = o := Except.ok.inj (ho'.symm.trans ho)
  refine ⟨hgen, o', ho', hnames, by cbv, hiff.mpr fun t _ _ => ?_⟩
  exact (isClass_styleOf_iff _ _).mpr (.inr rfl)

set_option maxRecDepth 100000 in
/-- Where all types are interfaces, the base is an interface too, and the class that extends it
follows. -/
theorem litter_base_is_interface :
    (generate litterSettings litterSchema {}).failure = none ∧
      (generate litterSettings litterSchema {}).output =
        Text.utf8 (("// Generated by json-schema-ts. Do not edit manually.\n\n" : Text) ++
          "export enum Kind \x7b\n    Dog = \"dog\",\n\x7d\n\n" ++
          "export interface PetBase \x7b\n    kind?: Kind;\n\x7d\n\n" ++
          "class Pet extends PetBase \x7b\n\x7d\n\n" ++
          "export interface Litter \x7b\n    pets?: Pet[];\n\x7d\n") ∧
      ∃ o, Outline.ofText .date litterSchema = .ok o ∧
        ∃ t ∈ o.types, t.name = ("Pet" : Text) ∧ t.IsBase litterSettings ∧
          (litterSettings.styleOf t.name).isClass = false := by
  have hout : (generate litterSettings litterSchema {}).output =
      Text.utf8 (("// Generated by json-schema-ts. Do not edit manually.\n\n" : Text) ++
        "export enum Kind \x7b\n    Dog = \"dog\",\n\x7d\n\n" ++
        "export interface PetBase \x7b\n    kind?: Kind;\n\x7d\n\n" ++
        "class Pet extends PetBase \x7b\n\x7d\n\n" ++
        "export interface Litter \x7b\n    pets?: Pet[];\n\x7d\n") := by
    cbv
  have hextended : litterSettings.index.isExtended ("Pet" : Text) = true := by
    cbv
  obtain ⟨o, ho, hnames⟩ := exists_litter_types
  obtain ⟨t, ht, hname⟩ : ∃ t ∈ o.types, t.name = ("Pet" : Text) := by
    apply List.mem_map.mp
    rw [hnames]
    exact List.mem_cons_self
  refine ⟨failure_generate ho rfl, hout, o, ho, t, ht, hname, isBase_iff.mpr ?_, rfl⟩
  rw [hname]
  exact hextended

end SchemaTypes
