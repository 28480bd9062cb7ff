import Mathlib
import SchemaTypes.Proofs.Declaration.Order
import SchemaTypes.Proofs.Declaration.Sound
import SchemaTypes.Proofs.Generation.Output
import SchemaTypes.Proofs.Text.Trim

/-!
# The scan of a document

A document without hand-written code is read by the scan of hand-written code as it is meant: its
classes are the types that are written as classes.

* `yields_trimmed`: blocks one behind the other, without the blanks at their end.
* `Outline.classes`: the names and the texts of the types that are written as classes.
* `Outline.fragments`: what stands in a document because it stands in the schema.
* **`scanClasses_document`**: the scan finds these classes, and every fragment is neutral.
-/

namespace SchemaTypes

/-! ## Blocks -/

/-- A block of a document: a text up to its last brace, and its classes. -/
structure Block.Scanned (text : Text) (classes : List (Text × Text)) : Prop where
  yields : Yields text {} (({} : ScanState).within .code) classes
  ends : ∃ x, text = x ++ ['\x7d']

/-- The text of some blocks, each with an empty line behind it. -/
def blocksText (blocks : List (Text × List (Text × Text))) : Text :=
  blocks.flatMap fun b => b.1 ++ ['\n', '\n']

theorem yields_blocksText {blocks : List (Text × List (Text × Text))}
    (h : ∀ b ∈ blocks, Block.Scanned b.1 b.2) :
    Yields (blocksText blocks) {} {} (blocks.flatMap Prod.snd) := by
  induction blocks with
  | nil => exact (Passes.refl _).yields
  | cons b blocks ih =>
    have hlines : Passes ['\n', '\n'] (({} : ScanState).within .code) {} :=
      (passes_newline {}).trans (passes_emptyLine {})
    have := ((h b List.mem_cons_self).yields.append hlines.yields).append
      (ih fun c hc => h c (List.mem_cons_of_mem _ hc))
    rw [List.append_nil] at this
    exact this

/-- **Blocks without the blanks at their end.** -/
theorem yields_trimmed {blocks : List (Text × List (Text × Text))}
    (h : ∀ b ∈ blocks, Block.Scanned b.1 b.2) :
    Yields (Text.trimEnd (blocksText blocks) ++ ['\n']) {} {} (blocks.flatMap Prod.snd) := by
  rcases List.eq_nil_or_concat blocks with rfl | ⟨init, last, rfl⟩
  · exact (passes_emptyLine {}).yields
  · rw [List.concat_eq_append] at h ⊢
    have hlast := h last (by simp)
    obtain ⟨x, hx⟩ := hlast.ends
    have htrim : Text.trimEnd (blocksText (init ++ [last])) = blocksText init ++ last.1 := by
      have hblank : Text.trimEnd ['\n', '\n'] = [] := by decide
      have hbrace : Text.isBlank '\x7d' = false := by decide
      have hblocks : blocksText (init ++ [last]) = blocksText init ++ last.1 ++ ['\n', '\n'] := by
        simp [blocksText]
      rw [hblocks, Text.trimEnd_append_of_eq_nil hblank, hx, ← List.append_assoc,
        Text.trimEnd_concat hbrace]
    have hinit : ∀ b ∈ init, Block.Scanned b.1 b.2 := fun b hb => h b (by simp [hb])
    have hend : Passes ['\n'] (({} : ScanState).within .code) {} := passes_newline {}
    have := ((yields_blocksText hinit).append hlast.yields).append hend.yields
    rw [htrim]
    simpa using this

/-! ## Blocks of an outline -/

namespace EnumDeclaration

/-- The block of an enumeration with its comment. -/
def block (e : EnumDeclaration) : Text × List (Text × Text) :=
  (unlines (docComment [] e.description) ++ e.text, [])

theorem Sound.scanned_block {e : EnumDeclaration} (h : e.Sound) :
    Block.Scanned e.block.1 e.block.2 where
  yields := ((passes_docComment e.description {}).trans h.passes_text).yields
  ends := ⟨_, (List.append_assoc _ _ _).symm⟩

end EnumDeclaration

namespace TypeDeclaration

/-- The text of a type in the style that the settings give it. -/
def styledText (s : Settings) (t : TypeDeclaration) : Text :=
  t.text (s.styleOf t.name) s.readOnlyKeywords t.name

/-- The block of a type with its comment, and the class that it is. -/
def block (s : Settings) (t : TypeDeclaration) : Text × List (Text × Text) :=
  (unlines (docComment [] t.description) ++ t.styledText s,
    if (s.styleOf t.name).isClass then [(t.name, t.styledText s)] else [])

theorem Sound.scanned_block {t : TypeDeclaration} (h : t.Sound)
    (hascii : ∀ c ∈ t.name, c.toNat < 0x80) (s : Settings) :
    Block.Scanned (t.block s).1 (t.block s).2 where
  yields := (passes_docComment t.description {}).yields.append
    (h.yields_text hascii (s.styleOf t.name) s.readOnlyKeywords)
  ends := ⟨_, (List.append_assoc _ _ _).symm⟩

end TypeDeclaration

namespace Outline

/-- The blocks of an outline in order. -/
def blocks (s : Settings) (o : Outline) : List (Text × List (Text × Text)) :=
  o.declarations.enums.values.map EnumDeclaration.block ++
    o.types.map (TypeDeclaration.block s)

/-- The names and the texts of the types that are written as classes. -/
def classes (s : Settings) (o : Outline) : List (Text × Text) :=
  (o.types.filter fun t => (s.styleOf t.name).isClass).map fun t => (t.name, t.styledText s)

theorem classes_blocks (s : Settings) (o : Outline) :
    (o.blocks s).flatMap Prod.snd = o.classes s := by
  have henums : (o.declarations.enums.values.map EnumDeclaration.block).flatMap Prod.snd = [] := by
    simp [EnumDeclaration.block]
  unfold blocks classes
  rw [List.flatMap_append, henums, List.nil_append]
  induction o.types with
  | nil => rfl
  | cons t ts ih =>
    rw [List.map_cons, List.flatMap_cons, ih, List.filter_cons]
    unfold TypeDeclaration.block
    cases (s.styleOf t.name).isClass <;> rfl

theorem scanned_blocks {o : Outline} (ho : o.declarations.Sound)
    (hascii : ∀ t ∈ o.types, ∀ c ∈ t.name, c.toNat < 0x80) (s : Settings) :
    ∀ b ∈ o.blocks s, Block.Scanned b.1 b.2 := by
  intro b hb
  rcases List.mem_append.mp hb with hb | hb
  · obtain ⟨e, he, rfl⟩ := List.mem_map.mp hb
    obtain ⟨entry, hentry, rfl⟩ := List.mem_map.mp he
    exact (ho.enums entry hentry).scanned_block
  · obtain ⟨t, ht, rfl⟩ := List.mem_map.mp hb
    obtain ⟨key, hkey⟩ := mem_declarations_of_mem_types ht
    exact (ho.types _ hkey).scanned_block (hascii t ht) s

end Outline

/-! ## Fragments -/

/-- What stands in a block because of a property: its comment, its key, its type and its
initializer. -/
def Property.fragments (p : Property) : List Text :=
  [unlines (docComment indentation p.description), propertyName p.key, p.type.text] ++
    p.initializer.toList.map Initializer.text

/-- What stands in a block because of a member: its name and its value. -/
def EnumMember.fragments (m : EnumMember) : List Text :=
  [m.name, Json.stringLiteral m.value]

namespace Outline

/-- The names in the headers of the blocks. -/
def names (o : Outline) : List Text :=
  o.declarations.enums.values.map EnumDeclaration.name ++ o.types.map TypeDeclaration.name

/-- The comments in front of the blocks. -/
def comments (o : Outline) : List Text :=
  (o.declarations.enums.values.map EnumDeclaration.description ++
    o.types.map TypeDeclaration.description).map fun d => unlines (docComment [] d)

/-- What stands between the braces of the blocks because it stands in the schema. -/
def fragments (o : Outline) : List Text :=
  o.declarations.enums.values.flatMap (fun e => e.members.flatMap EnumMember.fragments) ++
    o.types.flatMap fun t => t.properties.flatMap Property.fragments

theorem nameText_of_mem_names {o : Outline} (ho : o.declarations.Sound) {name : Text}
    (h : name ∈ o.names) : NameText name := by
  rcases List.mem_append.mp h with h | h
  · obtain ⟨e, he, rfl⟩ := List.mem_map.mp h
    obtain ⟨entry, hentry, rfl⟩ := List.mem_map.mp he
    exact (ho.enums entry hentry).name.characters
  · obtain ⟨t, ht, rfl⟩ := List.mem_map.mp h
    obtain ⟨key, hkey⟩ := mem_declarations_of_mem_types ht
    exact (ho.types _ hkey).name.characters

/-- **No fragment leaves anything open or closes what it has not opened.** -/
theorem neutral_of_mem_fragments {o : Outline} (ho : o.declarations.Sound) {x : Text}
    (h : x ∈ o.fragments) : Neutral x := by
  rcases List.mem_append.mp h with h | h
  · obtain ⟨e, he, hx⟩ := List.mem_flatMap.mp h
    obtain ⟨entry, hentry, rfl⟩ := List.mem_map.mp he
    obtain ⟨m, hm, hx⟩ := List.mem_flatMap.mp hx
    simp only [EnumMember.fragments, List.mem_cons, List.not_mem_nil, or_false] at hx
    rcases hx with rfl | rfl
    · exact neutral_inert ((ho.enums entry hentry).members m hm).inert
    · exact Json.neutral_stringLiteral m.value
  · obtain ⟨t, ht, hx⟩ := List.mem_flatMap.mp h
    obtain ⟨p, hp, hx⟩ := List.mem_flatMap.mp hx
    obtain ⟨key, hkey⟩ := mem_declarations_of_mem_types ht
    have hsound := (ho.types _ hkey).properties p hp
    simp only [Property.fragments, List.mem_append, List.mem_cons, List.not_mem_nil, or_false,
      List.mem_map, Option.mem_toList] at hx
    rcases hx with (rfl | rfl | rfl) | ⟨i, hi, rfl⟩
    · exact neutral_docComment blank_indentation p.description
    · exact neutral_propertyName p.key
    · exact hsound.type.neutral_text
    · exact hsound.initializer i hi

end Outline

/-! ## Documents -/

theorem Settings.freshIndex_of_no_code {s : Settings} (h : s.extensionCode = []) :
    s.freshIndex = ⟨[], [], [], s.extendedClasses.getD []⟩ := by
  unfold freshIndex
  rw [h]
  rfl

theorem documentText_of_no_code {s : Settings} {index : ExtensionIndex} {o : Outline}
    (himports : index.importCode = []) (hcode : index.remainingCode = [])
    (hclasses : index.classes = []) (hmodule : s.moduleName = []) :
    documentText s index o =
      headerLine ++ ['\n'] ++ ['\n'] ++
        (Text.trimEnd (blocksText (o.blocks s)) ++ ['\n']) := by
  have hext : ∀ name, index.extension? name = none := fun name => by
    unfold ExtensionIndex.extension? ExtensionIndex.class?
    rw [hclasses]
    split <;> rfl
  have htypes : ∀ t, typeLines s index t =
      typeBlock (s.styleOf t.name) s.readOnlyKeywords t.name t := fun t => by
    rw [typeLines, hext, s.template_eq_styleOf]
  have hblocks : unlines (o.declarations.enums.values.flatMap enumBlock ++
      o.types.flatMap (typeLines s index)) = blocksText (o.blocks s) := by
    rw [funext htypes, unlines_append, unlines_flatMap, unlines_flatMap]
    simp only [blocksText, Outline.blocks, List.flatMap_append, List.flatMap_map,
      EnumDeclaration.block, TypeDeclaration.block, TypeDeclaration.styledText,
      unlines_enumBlock, unlines_typeBlock, List.append_assoc]
  unfold documentText document preambleLines moduleLines body remainderLines
  rw [himports, hcode, hmodule]
  simp only [List.isEmpty_nil, if_true, List.append_nil, hblocks]
  simp

theorem passes_headerLine : Passes (headerLine ++ ['\n']) {} {} := by
  rw [headerLine, Text.ofString_eq]
  exact passes_lineComment (s := {}) rfl
    (x := " Generated by json-schema-ts. Do not edit manually.".toList) (by decide)

/-- **The scan of a document without hand-written code** finds the types that are written as
classes, and each from its header to its last brace. What stands in the document because it stands
in the schema opens nothing that it does not close and closes nothing that it has not opened. -/
theorem scanClasses_document {s : Settings} (hs : s.Coherent) (hcode : s.extensionCode = [])
    (hmodule : s.moduleName = []) {schema : Text} {sink : Sink}
    (hgen : (generate s schema sink).failure = none) :
    ∃ o out, Outline.ofText s.dateType schema = .ok o ∧
      (generate s schema sink).output = Text.utf8 out ∧
      ((∀ t ∈ o.types, ∀ c ∈ t.name, c.toNat < 0x80) →
        ∃ spans, scanClasses out = .ok spans ∧
          spans.map (fun c => (c.name, out.slice c.start c.stop)) = o.classes s) ∧
      (∀ x ∈ o.fragments, Neutral x) ∧
      (∀ x ∈ o.names, ∀ st : ScanState, Passes x (st.within .code) (st.within .code)) ∧
      ∀ x ∈ o.comments, ∀ st : ScanState, Passes x st.fresh st.fresh := by
  obtain ⟨o, ho, hout⟩ := output_of_failure_eq_none hgen
  have hsound := Outline.sound_of_ofText ho
  refine ⟨o, _, ho, hout, fun hascii => ?_, fun x hx => Outline.neutral_of_mem_fragments hsound hx,
    fun x hx st => ?_, fun x hx st => ?_⟩
  · have hindex : s.index = ⟨[], [], [], s.extendedClasses.getD []⟩ :=
      hs.index_eq.trans (Settings.freshIndex_of_no_code hcode)
    have hyields := (passes_headerLine.trans (passes_emptyLine {})).yields.append
      (yields_trimmed (Outline.scanned_blocks hsound hascii s))
    rw [Outline.classes_blocks, List.nil_append] at hyields
    rw [documentText_of_no_code (by rw [hindex]) (by rw [hindex]) (by rw [hindex]) hmodule]
    exact hyields.scanClasses rfl
  · have := Outline.nameText_of_mem_names hsound hx
    exact passes_inert this.inert this.no_newline
  · obtain ⟨d, _, rfl⟩ := List.mem_map.mp hx
    exact passes_docComment d st

/-- A schema with a mark in every place that takes a text. -/
def hostileSchema : Text :=
  ("\x7b\"type\":\"object\",\"title\":\"Pet\",\"description\":\"*/ class A \x7b\"," : Text) ++
    "\"properties\":\x7b\"\x7d'\":\x7b\"type\":\"string\",\"description\":\"\x7d /*\"," ++
    "\"default\":\"\\\"\x7d//\"\x7d,\"kind\":\x7b\"enum\":[\"\x7b\",\"'\"]\x7d\x7d\x7d"

set_option maxRecDepth 100000 in
/-- Its one class is found. -/
theorem scanClasses_document_hostile :
    (generate { style := .plainClass } hostileSchema {}).failure = none ∧
      ∃ out spans, (generate { style := .plainClass } hostileSchema {}).output = Text.utf8 out ∧
        scanClasses out = .ok spans ∧ spans.map ClassSpan.name = [("Pet" : Text)] := by
  have hnames : (Outline.ofText .date hostileSchema).map
      (fun o => o.types.map TypeDeclaration.name) = .ok [("Pet" : Text)] := by
    cbv
  obtain ⟨o, ho, htypes⟩ := exists_of_map_eq_ok hnames
  have hgen : (generate { style := .plainClass } hostileSchema {}).failure = none :=
    failure_generate ho rfl
  obtain ⟨o', out, ho', hout, hscan, _⟩ :=
    scanClasses_document (.of_index?_eq_none rfl) rfl rfl hgen
  obtain rfl : o = o' := Except.ok.inj (ho.symm.trans ho')
  obtain ⟨spans, hspans, hclasses⟩ := hscan fun t ht => by
    have hmem : t.name ∈ o.types.map TypeDeclaration.name := List.mem_map_of_mem ht
    have hpet : "Pet".toList.all (fun c => c.toNat < 0x80) = true := by decide
    rw [htypes, List.mem_singleton, Text.ofString_eq] at hmem
    intro c hc
    rw [hmem] at hc
    exact of_decide_eq_true (List.all_eq_true.mp hpet c hc)
  refine ⟨hgen, out, spans, hout, hspans, ?_⟩
  have hstyle : ∀ t ∈ o.types,
      (Settings.styleOf { style := .plainClass } t.name).isClass = true := fun t _ => rfl
  have hfst := congrArg (List.map Prod.fst) hclasses
  rw [Outline.classes, List.filter_eq_self.mpr hstyle, List.map_map, List.map_map] at hfst
  exact hfst.trans htypes

end SchemaTypes
