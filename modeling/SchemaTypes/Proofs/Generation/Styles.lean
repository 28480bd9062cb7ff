import SchemaTypes.Proofs.Generation.Parts

/-!
# Documents in other styles

With other styles the blocks of types are written otherwise, and all else stays as it is: which
types there are, their order and their names do not depend on the styles.

* `Settings.SameButStyles`: settings that differ in the styles of types.
* `Settings.blockIn`, `Settings.blockOf`: a type in a style, and in its own.
* `Settings.framed`: a document with given blocks of types.
* `documentText_eq_framed`: a document is framed blocks.
* **`generate_restyled`**: two generations with settings that differ in the styles.
-/

namespace SchemaTypes

/-! ## Blocks in a frame -/

/-- An enumeration, line by line. -/
def EnumDeclaration.part (e : EnumDeclaration) : List Text :=
  Text.lines (unlines (enumBlock e).dropLast)

namespace Settings

/-- A type in a style, line by line: its comment, its declaration and the class that extends it. -/
def blockIn (s : Settings) (style : Style) (t : TypeDeclaration) : List Text :=
  let declaration := typeBlock style s.readOnlyKeywords (s.emittedName (false, t.name)) t
  let extension := (s.index.extension? t.name).toList.flatMap fun c => [c.code, []]
  Text.lines (unlines (declaration ++ extension).dropLast)

/-- A type by the template that the settings choose for it. -/
def blockOf (s : Settings) (t : TypeDeclaration) : List Text :=
  s.blockIn (s.template t.name) t

/-- The document with the blocks in the place of its types: the header and the imports, and the
enumerations, the blocks and the rest of the hand-written code with empty lines between them, inside
the module if there is one. -/
def framed (s : Settings) (o : Outline) (blocks : List (List Text)) : Text :=
  let enums := o.declarations.enums.values.map EnumDeclaration.part
  let rest := (remainderLines s.index).map fun l => Text.lines (unlines [l])
  unlines (preambleLines s.index ++ s.openingLines ++
    ([[]].intercalate (enums ++ blocks ++ rest)).map s.placeLine ++ s.closingLines)

end Settings

/-- **A document is framed blocks**, one for every type. -/
theorem documentText_eq_framed {s : Settings} (hs : s.Coherent) {schema : Text} {o : Outline}
    (ho : Outline.ofText s.dateType schema = .ok o) :
    documentText s s.index o = s.framed o (o.types.map s.blockOf) := by
  have htype : ((fun p => Text.lines (unlines p)) ∘ Definition.solidLines s ∘ Definition.type) =
      s.blockOf := by
    funext t
    unfold Settings.blockOf
    rw [s.template_eq_styleOf]
    rfl
  have hparts : bodyParts s o =
      o.declarations.enums.values.map EnumDeclaration.part ++ o.types.map s.blockOf ++
        (remainderLines s.index).map fun l => Text.lines (unlines [l]) := by
    unfold bodyParts solidParts Outline.definitions
    simp only [List.map_append, List.map_map, htype]
    rfl
  rw [documentText_eq_parts hs ho, hparts]
  rfl

/-! ## Settings -/

/-- The settings differ in nothing but the styles of types. -/
structure Settings.SameButStyles (s s' : Settings) : Prop where
  dateType : s.dateType = s'.dateType
  moduleName : s.moduleName = s'.moduleName
  readOnlyKeywords : s.readOnlyKeywords = s'.readOnlyKeywords
  extensionCode : s.extensionCode = s'.extensionCode
  extendedClasses : s.extendedClasses = s'.extendedClasses

namespace Settings.SameButStyles

variable {s s' : Settings} (hs : s.Coherent) (hs' : s'.Coherent) (h : s.SameButStyles s')

include hs hs' h

theorem index_eq : s.index = s'.index := by
  rw [hs.index_eq, hs'.index_eq]
  unfold freshIndex
  rw [h.extensionCode, h.extendedClasses]

theorem emittedName_eq (name : Text) :
    s.emittedName (false, name) = s'.emittedName (false, name) := by
  unfold emittedName
  rw [index_eq hs hs' h]

theorem blockIn_eq (style : Style) (t : TypeDeclaration) :
    s.blockIn style t = s'.blockIn style t := by
  unfold blockIn
  rw [emittedName_eq hs hs' h, index_eq hs hs' h, h.readOnlyKeywords]

theorem framed_eq (o : Outline) (blocks : List (List Text)) :
    s.framed o blocks = s'.framed o blocks := by
  unfold framed openingLines placeLine closingLines
  rw [index_eq hs hs' h, h.moduleName]

end Settings.SameButStyles

theorem Settings.template_eq (s : Settings) (name : Text) :
    s.template name = if name ∈ s.classTypes.getD [] then .plainClass else s.style := by
  rw [template_eq_styleOf]
  unfold styleOf isClassType
  simp only [List.contains_iff_mem]

/-! ## Generation -/

/-- **Generation in other styles.** With settings that differ in nothing but the styles a generation
fails in the same way or does not fail either. If it does not, the two documents differ in the
blocks of types only: the header, the imports, the enumerations, the rest of the hand-written code
and the module around them are the same, there is one block for every type, in the same order and
under the same name, and the two blocks of a type are the same if the settings choose the same
template for it. That template is the one of classes if the name of the type is among the forced
ones, and that of the style of the settings if it is not. It agrees with the style of the type, and
the questions for both are answered so. -/
theorem generate_restyled {s s' : Settings} (hs : s.Coherent) (hs' : s'.Coherent)
    (h : s.SameButStyles s') (schema : Text) :
    (generate s schema {}).failure = (generate s' schema {}).failure ∧
      ((generate s schema {}).failure = none → ∃ o, Outline.ofText s.dateType schema = .ok o ∧
        (generate s schema {}).output = Text.utf8 (s.framed o (o.types.map s.blockOf)) ∧
        (generate s' schema {}).output = Text.utf8 (s.framed o (o.types.map s'.blockOf)) ∧
        ∀ t ∈ o.types, s.emittedName (false, t.name) = s'.emittedName (false, t.name) ∧
          (s.template t.name = s'.template t.name → s.blockOf t = s'.blockOf t)) ∧
      ∀ name,
        s.template name = (if name ∈ s.classTypes.getD [] then .plainClass else s.style) ∧
        s.template name = s.styleOf name ∧
        (Operation.styleOf name).answer s = .style (s.styleOf name) ∧
        (Operation.chooseStyle name).answer s = .style (s.template name) := by
  refine ⟨failure_generate_congr h.dateType schema, fun hfailure => ?_,
    fun name => ⟨s.template_eq name, s.template_eq_styleOf name, rfl, rfl⟩⟩
  obtain ⟨o, ho, houtput⟩ := output_of_failure_eq_none hfailure
  have ho' : Outline.ofText s'.dateType schema = .ok o := h.dateType ▸ ho
  refine ⟨o, ho, ?_, ?_, fun t _ => ⟨h.emittedName_eq hs hs' t.name, fun hstyle => ?_⟩⟩
  · rw [houtput, documentText_eq_framed hs ho]
  · rw [output_generate ho', documentText_eq_framed hs' ho', h.framed_eq hs hs']
  · unfold Settings.blockOf
    rw [hstyle, h.blockIn_eq hs hs']

/-! ## A document in two styles -/

/-- Classes, and a class that extends the owner. -/
def kennelClasses : Settings :=
  { style := .plainClass
    extensionCode := "class Owner extends OwnerBase \x7b\n\x7d\n"
    extendedClasses := some [("Owner" : Text)] }

/-- Interfaces but for the owner. -/
def kennelInterfaces : Settings :=
  { kennelClasses with style := .interface, classTypes := some [("Owner" : Text)] }

set_option maxRecDepth 100000 in
/-- The owner is written alike, the kennel is not. -/
theorem kennel_restyled :
    kennelClasses.Coherent ∧ kennelInterfaces.Coherent ∧
      kennelClasses.SameButStyles kennelInterfaces ∧
      (generate kennelClasses kennelSchema {}).failure = none ∧
      (generate kennelInterfaces kennelSchema {}).failure = none ∧
      ∃ o, Outline.ofText .date kennelSchema = .ok o ∧
        o.types.map TypeDeclaration.name = [("Owner" : Text), "Kennel"] ∧
        (∀ t ∈ o.types, t.name = "Owner" → kennelClasses.blockOf t = kennelInterfaces.blockOf t) ∧
        kennelClasses.styleOf "Kennel" ≠ kennelInterfaces.styleOf "Kennel" := by
  have hcoherent : kennelClasses.Coherent := .of_index?_eq_none rfl
  have hcoherent' : kennelInterfaces.Coherent := .of_index?_eq_none rfl
  have hsame : kennelClasses.SameButStyles kennelInterfaces := ⟨rfl, rfl, rfl, rfl, rfl⟩
  have hnames : (Outline.ofText .date kennelSchema).map
      (fun o => o.types.map TypeDeclaration.name) = .ok [("Owner" : Text), "Kennel"] := by
    cbv
  have howner : kennelClasses.styleOf "Owner" = kennelInterfaces.styleOf "Owner" := by
    cbv
  obtain ⟨o, ho, hnames'⟩ := exists_of_map_eq_ok hnames
  have hfailure : (generate kennelClasses kennelSchema {}).failure = none :=
    failure_generate ho rfl
  obtain ⟨hequal, hdocuments, _⟩ := generate_restyled hcoherent hcoherent' hsame kennelSchema
  obtain ⟨o', ho', _, _, hblocks⟩ := hdocuments hfailure
  obtain rfl : o = o' := Except.ok.inj (ho.symm.trans ho')
  refine ⟨hcoherent, hcoherent', hsame, hfailure, hequal ▸ hfailure, o, ho, hnames', ?_, ?_⟩
  · intro t ht hname
    exact (hblocks t ht).2 (hname ▸ howner)
  · cbv
    simp

end SchemaTypes
