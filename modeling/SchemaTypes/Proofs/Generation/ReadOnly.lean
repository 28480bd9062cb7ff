import SchemaTypes.Proofs.Generation.Parts

/-!
# Documents with and without keywords

Whether keywords are written for properties that are only read decides about the lines of these
properties and about nothing else: the keyword comes behind the spaces at the start of the line.

* `withKeyword`: a line with the keyword.
* `MarkedLine`: a line that says of which property it is; `MarkedLine.shown`: as it is written.
* `Definition.marked`: the marked lines of a definition.
* `map_shown_marked`: as they are written they are the lines of the definition.
* `map_shown_markedParts`: so are the parts of a body, line by line.
* **`generate_read_only`**: a generation with keywords and without.
-/

namespace SchemaTypes

open Text (IsLine)

/-! ## The keyword -/

/-- The line with the keyword behind the spaces at its start. -/
def withKeyword (l : Text) : Text :=
  l.takeWhile (· = ' ') ++ "readonly " ++ l.dropWhile (· = ' ')

theorem withKeyword_ne_self (l : Text) : withKeyword l ≠ l := by
  intro h
  have hlength := congrArg List.length h
  have hparts := congrArg List.length (List.takeWhile_append_dropWhile (p := (· = ' ')) (l := l))
  have hkeyword : 0 < List.length ("readonly " : Text) := by
    rw [Text.ofString_eq]
    decide
  simp only [withKeyword, List.length_append] at hlength hparts
  omega

theorem withKeyword_append {spaces : Text} (h : ∀ c ∈ spaces, c = ' ') (l : Text) :
    withKeyword (spaces ++ l) = spaces ++ withKeyword l := by
  have hspaces : ∀ c ∈ spaces, decide (c = ' ') = true := fun c hc => decide_eq_true (h c hc)
  unfold withKeyword
  rw [List.takeWhile_append_of_pos hspaces, List.dropWhile_append_of_pos hspaces]
  simp only [List.append_assoc]

theorem withKeyword_of_head {l : Text} (h : l.head? ≠ some ' ') :
    withKeyword l = "readonly " ++ l := by
  unfold withKeyword
  cases l with
  | nil => rfl
  | cons c l =>
    have hc : c ≠ ' ' := fun hc => h (congrArg some hc)
    rw [List.takeWhile_cons_of_neg (by simpa using hc),
      List.dropWhile_cons_of_neg (by simpa using hc)]
    rfl

theorem spaces_indentation : ∀ c ∈ indentation, c = ' ' := by
  intro c hc
  rw [indentation, Text.ofString_eq] at hc
  simpa using hc

theorem exists_propertyName_eq_cons (key : Text) :
    ∃ c r, propertyName key = c :: r ∧ c ≠ ' ' := by
  unfold propertyName
  split
  · next h =>
    cases key with
    | nil => exact absurd h (by decide)
    | cons c r =>
      refine ⟨c, r, rfl, ?_⟩
      rintro rfl
      exact absurd (isIdentifierPart_of_mem h List.mem_cons_self) (by decide)
  · exact ⟨'"', key.flatMap Json.escapedChar ++ ['"'], Json.stringLiteral_eq key, by decide⟩

/-- **The line of a property** with keywords is the one without, or that one with the keyword. -/
theorem memberLine_true (style : Style) (p : Property) :
    memberLine style true p =
      if p.readOnly = true then withKeyword (memberLine style false p)
      else memberLine style false p := by
  obtain ⟨c, r, hname, hc⟩ := exists_propertyName_eq_cons p.key
  have hline : ∀ mark, indentation ++ mark ++ propertyName p.key ++ memberTail p style ++ ";" =
      indentation ++ (mark ++ (c :: (r ++ memberTail p style ++ ";"))) := by
    intro mark
    rw [hname]
    simp only [List.append_assoc, List.cons_append]
  unfold memberLine readOnlyMark
  rw [hline, hline, Bool.and_false, if_neg Bool.false_ne_true, List.nil_append,
    withKeyword_append spaces_indentation, withKeyword_of_head (by simpa using hc)]
  cases p.readOnly <;> rfl

theorem placeLine_withKeyword (s : Settings) {l : Text} (h : l ≠ []) :
    s.placeLine (withKeyword l) = withKeyword (s.placeLine l) := by
  have hempty : l.isEmpty = false := by simpa using h
  have hempty' : (withKeyword l).isEmpty = false := by
    simp [withKeyword, Text.ofString_eq]
  unfold Settings.placeLine
  split
  · rfl
  · unfold moduleLine
    rw [hempty, hempty', if_neg Bool.false_ne_true, if_neg Bool.false_ne_true,
      withKeyword_append spaces_indentation]

theorem memberLine_ne_nil (style : Style) (keywords : Bool) (p : Property) :
    memberLine style keywords p ≠ [] := by
  simp [memberLine, indentation, Text.ofString_eq]

/-- **A line of a property is one line**, whatever its key, its type and its initializer are. -/
theorem isLine_memberLine {p : Property} (hp : p.Sound) (h : p.ControlFree) (style : Style)
    (keywords : Bool) : IsLine (memberLine style keywords p) := by
  have hline := noControl_memberLine hp h style keywords
  refine ⟨fun hn => absurd (hline '\n' hn) (by decide), fun hr => ?_⟩
  exact absurd (hline '\r' (List.mem_of_getLast? hr)) (by decide)

/-! ## Marked lines -/

/-- A line, and the property that it is the line of, with its style, if it is one of a property. -/
structure MarkedLine where
  text : Text
  member : Option (Style × Property)

namespace MarkedLine

/-- A line of no property. -/
def plain (l : Text) : MarkedLine := ⟨l, none⟩

/-- The line of a property without keywords. -/
def ofProperty (style : Style) (p : Property) : MarkedLine :=
  ⟨memberLine style false p, some (style, p)⟩

/-- Is it the line of a property that is only read? -/
def readOnly (l : MarkedLine) : Bool :=
  l.member.any fun m => m.2.readOnly

/-- The line as it is written with keywords or without. -/
def shown (keywords : Bool) (l : MarkedLine) : Text :=
  if keywords && l.readOnly then withKeyword l.text else l.text

@[simp] theorem shown_plain (keywords : Bool) (l : Text) : (plain l).shown keywords = l := by
  unfold shown
  rw [show (plain l).readOnly = false from rfl, Bool.and_false, if_neg Bool.false_ne_true]
  rfl

@[simp] theorem map_shown_map_plain (keywords : Bool) (ls : List Text) :
    (ls.map plain).map (shown keywords) = ls := by
  simp [Function.comp_def]

@[simp] theorem shown_ofProperty (keywords : Bool) (style : Style) (p : Property) :
    (ofProperty style p).shown keywords = memberLine style keywords p := by
  cases keywords with
  | false => rfl
  | true => exact (memberLine_true style p).symm

@[simp] theorem filterMap_member_map_plain (ls : List Text) :
    (ls.map plain).filterMap member = [] := by
  simp [plain]

theorem shown_true_ne_iff (l : MarkedLine) :
    l.shown true ≠ l.shown false ↔ ∃ m ∈ l.member, m.2.readOnly = true := by
  have hmarked : l.readOnly = true ↔ ∃ m ∈ l.member, m.2.readOnly = true := by
    unfold readOnly
    cases l.member <;> simp
  rw [← hmarked]
  unfold shown
  cases l.readOnly with
  | false => simp
  | true => simpa using withKeyword_ne_self l.text

theorem shown_true_cases (l : MarkedLine) :
    l.shown true = l.shown false ∨ l.shown true = withKeyword (l.shown false) := by
  unfold shown
  cases l.readOnly
  · exact .inl rfl
  · exact .inr rfl

/-- If the line is one of a property it is the one that is written for it, and the property is as it
is made from a schema. -/
def Sound (l : MarkedLine) : Prop :=
  ∀ m ∈ l.member, l = ofProperty m.1 m.2 ∧ m.2.Sound ∧ m.2.ControlFree

theorem sound_plain (l : Text) : (plain l).Sound :=
  fun _ hm => absurd hm nofun

/-- The line cut into its lines. The line of a property is one. -/
def split (l : MarkedLine) : List MarkedLine :=
  match l.member with
  | none => (Text.lines (l.text ++ ['\n'])).map plain
  | some _ => [l]

theorem sound_of_mem_split {l l' : MarkedLine} (h : l.Sound) (hl : l' ∈ l.split) : l'.Sound := by
  unfold split at hl
  split at hl
  · obtain ⟨line, _, rfl⟩ := List.mem_map.mp hl
    exact sound_plain line
  · rwa [List.mem_singleton.mp hl]

theorem filterMap_member_split (l : MarkedLine) : l.split.filterMap member = l.member.toList := by
  unfold split
  cases h : l.member with
  | none => exact filterMap_member_map_plain _
  | some m => simp [h]

theorem lines_shown {l : MarkedLine} (h : l.Sound) (keywords : Bool) :
    Text.lines (l.shown keywords ++ ['\n']) = l.split.map (shown keywords) := by
  obtain ⟨t, member⟩ := l
  cases member with
  | none =>
    show Text.lines ((plain t).shown keywords ++ ['\n']) = _
    rw [shown_plain]
    exact (map_shown_map_plain keywords _).symm
  | some m =>
    obtain ⟨hl, hp, hcontrol⟩ := h m rfl
    have hlines : Text.lines (unlines [memberLine m.1 keywords m.2]) =
        [memberLine m.1 keywords m.2] :=
      Text.lines_unlines (List.forall_mem_singleton.mpr
        (isLine_memberLine hp hcontrol m.1 keywords))
    rw [unlines_cons, unlines_nil] at hlines
    rw [hl, shown_ofProperty, hlines, ← shown_ofProperty]
    rfl

/-- The line as it stands in a document. -/
def place (s : Settings) (l : MarkedLine) : MarkedLine :=
  ⟨s.placeLine l.text, l.member⟩

/-- **The keyword does not depend on where a line stands.** -/
theorem shown_place {l : MarkedLine} (h : l.Sound) (s : Settings) (keywords : Bool) :
    (l.place s).shown keywords = s.placeLine (l.shown keywords) := by
  have hmarked : (l.place s).readOnly = l.readOnly := rfl
  unfold shown
  rw [hmarked]
  by_cases hkeyword : (keywords && l.readOnly) = true
  · rw [if_pos hkeyword, if_pos hkeyword]
    refine (placeLine_withKeyword s fun hnil => ?_).symm
    obtain ⟨t, member⟩ := l
    cases member with
    | none =>
      have hplain : (plain t).readOnly = false := rfl
      exact absurd ((Bool.and_eq_true ..).mp hkeyword).2 (hplain ▸ Bool.false_ne_true)
    | some m =>
      have hline : t = memberLine m.1 false m.2 := congrArg MarkedLine.text (h m rfl).1
      exact memberLine_ne_nil m.1 false m.2 (hline.symm.trans hnil)
  · rw [if_neg hkeyword, if_neg hkeyword]
    rfl

end MarkedLine

/-! ## Marked definitions -/

open MarkedLine (plain ofProperty shown)

namespace Definition

/-- The lines of a definition without keywords, those of properties marked. -/
def marked (s : Settings) : Definition → List MarkedLine
  | enum e => (enumBlock e).map plain
  | type t =>
    let style := s.styleOf t.name
    let name := s.emittedName (false, t.name)
    let header := docComment [] t.description ++
      ["export " ++ style.keyword ++ " " ++ name ++ " \x7b"]
    let extension := (s.index.extension? t.name).toList.flatMap fun c => [c.code, []]
    header.map plain ++
      t.properties.flatMap (fun p =>
        (docComment indentation p.description).map plain ++ [ofProperty style p]) ++
      (trailerLines name t.properties style ++ closingLines ++ extension).map plain

/-- The properties of a definition, with its style. -/
def members (s : Settings) : Definition → List (Style × Property)
  | enum _ => []
  | type t => t.properties.map fun p => (s.styleOf t.name, p)

variable (s : Settings) (w : Definition)

/-- **The marked lines** as they are written are the lines of the definition. -/
theorem map_shown_marked (keywords : Bool) :
    (w.marked s).map (shown keywords) = w.lines { s with readOnlyKeywords := keywords } := by
  cases w with
  | enum e => exact MarkedLine.map_shown_map_plain keywords _
  | type t =>
    have hmembers : ∀ style p, ((docComment indentation p.description).map plain ++
        [ofProperty style p]).map (shown keywords) = memberLines style keywords p := by
      intro style p
      rw [List.map_append, MarkedLine.map_shown_map_plain, List.map_singleton,
        MarkedLine.shown_ofProperty]
      rfl
    unfold marked lines typeBlock
    dsimp only
    rw [List.map_append, List.map_append, MarkedLine.map_shown_map_plain,
      MarkedLine.map_shown_map_plain, List.map_flatMap]
    simp only [hmembers, List.append_assoc, List.singleton_append]
    rfl

theorem filterMap_member_marked :
    (w.marked s).dropLast.filterMap MarkedLine.member = w.members s := by
  cases w with
  | enum e =>
    show ((enumBlock e).map plain).dropLast.filterMap MarkedLine.member = []
    rw [← List.map_dropLast, MarkedLine.filterMap_member_map_plain]
  | type t =>
    have hmembers : ∀ style p, ((docComment indentation p.description).map plain ++
        [ofProperty style p]).filterMap MarkedLine.member = [(style, p)] := by
      intro style p
      rw [List.filterMap_append, MarkedLine.filterMap_member_map_plain]
      rfl
    unfold marked members
    dsimp only
    rw [List.dropLast_append_of_ne_nil (by simp [closingLines]), ← List.map_dropLast,
      List.filterMap_append, List.filterMap_append, MarkedLine.filterMap_member_map_plain,
      MarkedLine.filterMap_member_map_plain, List.filterMap_flatMap, List.nil_append,
      List.append_nil]
    simp only [hmembers]
    exact List.map_eq_flatMap.symm

theorem sound_marked (hw : ∀ t, w = .type t → ∀ p ∈ t.properties, p.Sound ∧ p.ControlFree) :
    ∀ l ∈ w.marked s, l.Sound := by
  intro l hl
  cases w with
  | enum e =>
    obtain ⟨x, _, rfl⟩ := List.mem_map.mp hl
    exact MarkedLine.sound_plain x
  | type t =>
    unfold marked at hl
    dsimp only at hl
    rcases List.mem_append.mp hl with hl | hl
    · rcases List.mem_append.mp hl with hl | hl
      · obtain ⟨x, _, rfl⟩ := List.mem_map.mp hl
        exact MarkedLine.sound_plain x
      · obtain ⟨p, hp, hl⟩ := List.mem_flatMap.mp hl
        rcases List.mem_append.mp hl with hl | hl
        · obtain ⟨x, _, rfl⟩ := List.mem_map.mp hl
          exact MarkedLine.sound_plain x
        · rw [List.mem_singleton.mp hl]
          rintro _ ⟨⟩
          exact ⟨rfl, hw t rfl p hp⟩
    · obtain ⟨x, _, rfl⟩ := List.mem_map.mp hl
      exact MarkedLine.sound_plain x

end Definition

theorem Outline.sound_of_mem_definitions {dates : DateType} {schema : Text} {o : Outline}
    (ho : Outline.ofText dates schema = .ok o) {t : TypeDeclaration}
    (ht : .type t ∈ o.definitions) : ∀ p ∈ t.properties, p.Sound ∧ p.ControlFree := by
  have hcontrol := Outline.controlFree_of_ofText ho
  have hmem : t ∈ o.types := by simpa [definitions] using ht
  obtain ⟨key, hkey⟩ := Outline.mem_declarations_of_mem_types hmem
  exact fun p hp => ⟨(hcontrol.sound.types _ hkey).properties p hp, hcontrol.properties _ hkey p hp⟩

/-! ## Marked bodies -/

/-- The parts of a body before they are cut into lines, those of properties marked. -/
def markedParts (s : Settings) (o : Outline) : List (List MarkedLine) :=
  o.definitions.map (fun w => (w.marked s).dropLast) ++
    (remainderLines s.index).map fun l => [plain l]

/-- The lines of a body, those of properties marked. -/
def markedBody (s : Settings) (o : Outline) : List MarkedLine :=
  [plain []].intercalate ((markedParts s o).map fun p => p.flatMap MarkedLine.split)

theorem map_shown_markedParts (s : Settings) (o : Outline) (keywords : Bool) :
    (markedParts s o).map (List.map (shown keywords)) =
      solidParts { s with readOnlyKeywords := keywords } o := by
  have hdefinition : ∀ w : Definition, ((w.marked s).dropLast).map (shown keywords) =
      w.solidLines { s with readOnlyKeywords := keywords } := fun w => by
    rw [List.map_dropLast, w.map_shown_marked]
    rfl
  unfold markedParts solidParts
  simp only [List.map_append, List.map_map, Function.comp_def, hdefinition, List.map_singleton,
    MarkedLine.shown_plain]
  rfl

section Bodies

variable {s : Settings} {schema : Text} {o : Outline}
  (ho : Outline.ofText s.dateType schema = .ok o)

include ho

theorem sound_of_mem_markedParts : ∀ p ∈ markedParts s o, ∀ l ∈ p, l.Sound := by
  intro p hp l hl
  rcases List.mem_append.mp hp with hp | hp
  · obtain ⟨w, hw, rfl⟩ := List.mem_map.mp hp
    refine w.sound_marked s (fun t ht => ?_) l (List.mem_of_mem_dropLast hl)
    exact Outline.sound_of_mem_definitions ho (ht ▸ hw)
  · obtain ⟨x, _, rfl⟩ := List.mem_map.mp hp
    rw [List.mem_singleton.mp hl]
    exact MarkedLine.sound_plain x

theorem sound_of_mem_markedBody : ∀ l ∈ markedBody s o, l.Sound := by
  intro l hl
  rcases mem_or_mem_of_mem_intercalate hl with hl | ⟨p, hp, hl⟩
  · rw [List.mem_singleton.mp hl]
    exact MarkedLine.sound_plain []
  · obtain ⟨q, hq, rfl⟩ := List.mem_map.mp hp
    obtain ⟨l', hl', hsplit⟩ := List.mem_flatMap.mp hl
    exact MarkedLine.sound_of_mem_split (sound_of_mem_markedParts ho q hq l' hl') hsplit

/-- **The marked lines of a body** as they are written are its lines. -/
theorem map_shown_markedBody (keywords : Bool) :
    (markedBody s o).map (shown keywords) =
      [[]].intercalate (bodyParts { s with readOnlyKeywords := keywords } o) := by
  have hpart : ∀ p ∈ markedParts s o, (p.flatMap MarkedLine.split).map (shown keywords) =
      Text.lines (unlines (p.map (shown keywords))) := by
    intro p hp
    rw [Text.lines_unlines_eq_flatMap, List.flatMap_map, List.map_flatMap]
    exact List.flatMap_congr fun l hl =>
      (MarkedLine.lines_shown (sound_of_mem_markedParts ho p hp l hl) keywords).symm
  unfold markedBody bodyParts
  rw [map_intercalate, ← map_shown_markedParts, List.map_map, List.map_map, List.map_singleton,
    MarkedLine.shown_plain]
  exact congrArg _ (List.map_congr_left hpart)

end Bodies

/-- **The marks of a body** are the properties of all types, in the order of the types. -/
theorem filterMap_member_markedBody (s : Settings) (o : Outline) :
    (markedBody s o).filterMap MarkedLine.member =
      o.types.flatMap fun t => t.properties.map fun p => (s.styleOf t.name, p) := by
  have hsplit : ∀ p : List MarkedLine, (p.flatMap MarkedLine.split).filterMap MarkedLine.member =
      p.filterMap MarkedLine.member := by
    intro p
    rw [List.filterMap_flatMap, List.filterMap_eq_flatMap_toList]
    exact List.flatMap_congr fun l _ => l.filterMap_member_split
  have hparts : (markedParts s o).flatMap (List.filterMap MarkedLine.member) =
      o.definitions.flatMap (Definition.members s) := by
    have hplain : ∀ l, [plain l].filterMap MarkedLine.member = [] := fun _ => rfl
    unfold markedParts
    rw [List.flatMap_append, List.flatMap_map, List.flatMap_map]
    simp [hplain, Definition.filterMap_member_marked]
  have hmembers : o.definitions.flatMap (Definition.members s) =
      o.types.flatMap fun t => t.properties.map fun p => (s.styleOf t.name, p) := by
    unfold Outline.definitions
    rw [List.flatMap_append, List.flatMap_map, List.flatMap_map]
    simp [Definition.members]
  unfold markedBody
  rw [filterMap_intercalate _ _ _ rfl, List.flatMap_map]
  simp only [hsplit]
  exact hparts.trans hmembers

/-! ## Marked documents -/

theorem no_newline_placeLine (s : Settings) {l : Text} (h : '\n' ∉ l) : '\n' ∉ s.placeLine l := by
  unfold Settings.placeLine moduleLine
  split_ifs
  · exact h
  · exact List.not_mem_nil
  · exact fun hn => (List.mem_append.mp hn).elim
      (fun hn => absurd (spaces_indentation _ hn) (by decide)) h

section Documents

variable {s : Settings} {schema : Text} {o : Outline}
  (ho : Outline.ofText s.dateType schema = .ok o)

include ho

theorem map_shown_map_place (keywords : Bool) :
    ((markedBody s o).map (MarkedLine.place s)).map (shown keywords) =
      ([[]].intercalate (bodyParts { s with readOnlyKeywords := keywords } o)).map
        s.placeLine := by
  rw [← map_shown_markedBody ho keywords, List.map_map, List.map_map]
  exact List.map_congr_left fun l hl =>
    MarkedLine.shown_place (sound_of_mem_markedBody ho l hl) s keywords

theorem no_newline_shown_place (hs : s.Coherent) (keywords : Bool) :
    ∀ l ∈ markedBody s o, '\n' ∉ (l.place s).shown keywords := by
  intro l hl
  have hmem := List.mem_map_of_mem (f := shown keywords) hl
  have hlines := (lines_body (s := { s with readOnlyKeywords := keywords }) hs
    (Outline.definitions_ne_nil ho)).1
  rw [map_shown_markedBody ho, ← hlines] at hmem
  rw [MarkedLine.shown_place (sound_of_mem_markedBody ho l hl)]
  exact no_newline_placeLine s (Text.no_newline_of_mem_lines hmem)

theorem text_place : ∀ l ∈ markedBody s o, ∀ m ∈ l.member,
    (l.place s).text = s.placeLine (memberLine m.1 false m.2) := by
  intro l hl m hm
  have htext := congrArg MarkedLine.text (sound_of_mem_markedBody ho l hl m hm).1
  exact congrArg s.placeLine htext

/-- **The lines of a document** with keywords and without, those of properties marked. -/
theorem exists_marked_document (hs : s.Coherent) :
    ∃ lines : List MarkedLine,
      (∀ keywords, documentText { s with readOnlyKeywords := keywords } s.index o =
        unlines (lines.map (shown keywords))) ∧
      (∀ keywords, ∀ l ∈ lines, '\n' ∉ l.shown keywords) ∧
      (lines.filterMap MarkedLine.member =
        o.types.flatMap fun t => t.properties.map fun p => (s.styleOf t.name, p)) ∧
      ∀ l ∈ lines, ∀ m ∈ l.member, l.text = s.placeLine (memberLine m.1 false m.2) := by
  obtain ⟨before, hbefore, hpreamble⟩ :=
    Text.exists_unlines_eq (preambleLines s.index ++ s.openingLines)
  obtain ⟨after, hafter, hclosing⟩ := Text.exists_unlines_eq s.closingLines
  let placed := (markedBody s o).map (MarkedLine.place s)
  have hmem : ∀ {motive : MarkedLine → Prop}, (∀ x, '\n' ∉ x → motive (plain x)) →
      (∀ l ∈ markedBody s o, motive (l.place s)) →
        ∀ l ∈ before.map plain ++ placed ++ after.map plain, motive l := by
    intro motive hplain hplaced
    rw [List.forall_mem_append, List.forall_mem_append, List.forall_mem_map, List.forall_mem_map,
      List.forall_mem_map]
    exact ⟨⟨fun x hx => hplain x (hbefore x hx), hplaced⟩, fun x hx => hplain x (hafter x hx)⟩
  refine ⟨before.map plain ++ placed ++ after.map plain, fun keywords => ?_, fun keywords => ?_,
    ?_, ?_⟩
  · have hdocument : documentText { s with readOnlyKeywords := keywords } s.index o =
        unlines (preambleLines s.index ++ s.openingLines ++ placed.map (shown keywords) ++
          s.closingLines) := by
      rw [map_shown_map_place ho]
      exact documentText_eq_parts (s := { s with readOnlyKeywords := keywords }) hs ho
    rw [hdocument, unlines_append, unlines_append, ← hpreamble, ← hclosing, List.map_append,
      List.map_append, unlines_append, unlines_append, MarkedLine.map_shown_map_plain,
      MarkedLine.map_shown_map_plain]
  · refine hmem (fun x hx => ?_) (no_newline_shown_place ho hs keywords)
    rwa [MarkedLine.shown_plain]
  · rw [List.filterMap_append, List.filterMap_append, MarkedLine.filterMap_member_map_plain,
      MarkedLine.filterMap_member_map_plain, List.filterMap_map, List.nil_append, List.append_nil]
    exact filterMap_member_markedBody s o
  · exact hmem (fun _ _ _ hm => absurd hm nofun) (text_place ho)

end Documents

/-! ## Generation -/

/-- **Generation with keywords and without.** A generation with keywords for properties that are
only read fails in the same way as without or does not fail either. If it does not, the two
documents have the same number of lines, and every line is the same in both or has the keyword
behind the spaces at its start in the one with keywords. The lines that differ are those of the
properties of types that are only read: every property of every type has one line, in the order of
the types, and no other line is one of a property. -/
theorem generate_read_only {s : Settings} (hs : s.Coherent) (schema : Text) :
    let run := fun keywords => generate { s with readOnlyKeywords := keywords } schema {}
    (run true).failure = (run false).failure ∧
      ((run false).failure = none → ∃ (o : Outline) (lines : List MarkedLine),
        Outline.ofText s.dateType schema = .ok o ∧
        (∀ keywords,
          (run keywords).output = Text.utf8 (unlines (lines.map (MarkedLine.shown keywords))) ∧
          ∀ l ∈ lines, '\n' ∉ l.shown keywords) ∧
        (∀ l ∈ lines,
          (l.shown true = l.shown false ∨ l.shown true = withKeyword (l.shown false)) ∧
          (l.shown true ≠ l.shown false ↔ ∃ m ∈ l.member, m.2.readOnly = true)) ∧
        (lines.filterMap MarkedLine.member =
          o.types.flatMap fun t => t.properties.map fun p => (s.styleOf t.name, p)) ∧
        ∀ l ∈ lines, ∀ m ∈ l.member, l.shown false = s.placeLine (memberLine m.1 false m.2)) := by
  intro run
  have hrun : ∀ keywords, (run keywords).failure = (generate s schema {}).failure := by
    intro keywords
    have hdates : { s with readOnlyKeywords := keywords }.dateType = s.dateType := rfl
    exact failure_generate_congr hdates schema
  refine ⟨(hrun true).trans (hrun false).symm, fun hfailure => ?_⟩
  obtain ⟨o, ho, _⟩ := output_of_failure_eq_none hfailure
  obtain ⟨lines, hdocument, hnewline, hmembers, htext⟩ := exists_marked_document ho hs
  refine ⟨o, lines, ho, fun keywords => ⟨?_, hnewline keywords⟩,
    fun l _ => ⟨l.shown_true_cases, l.shown_true_ne_iff⟩, hmembers, htext⟩
  rw [← hdocument]
  exact output_generate (s := { s with readOnlyKeywords := keywords }) ho

/-! ## A document with a property that is only read -/

/-- Pets with a tag that is only read and a name. -/
def tagSchema : Text :=
  ("\x7b\"type\":\"object\",\"title\":\"Pet\",\"properties\":\x7b" : Text) ++
    "\"tag\":\x7b\"type\":\"string\",\"readOnly\":true\x7d," ++
    "\"name\":\x7b\"type\":\"string\"\x7d\x7d\x7d"

/-- Classes in a module. -/
def shopSettings : Settings :=
  { style := .plainClass, moduleName := "Shop" }

set_option maxRecDepth 100000 in
/-- The line of the tag is the one that differs. -/
theorem tag_read_only :
    shopSettings.Coherent ∧
      (generate { shopSettings with readOnlyKeywords := false } tagSchema {}).failure = none ∧
      ∃ lines : List MarkedLine,
        (generate { shopSettings with readOnlyKeywords := true } tagSchema {}).output =
          Text.utf8 (unlines (lines.map (MarkedLine.shown true))) ∧
        (generate { shopSettings with readOnlyKeywords := false } tagSchema {}).output =
          Text.utf8 (unlines (lines.map (MarkedLine.shown false))) ∧
        (lines.filterMap MarkedLine.member).map (fun m => (m.2.key, m.2.readOnly)) =
          [(("name" : Text), false), ("tag", true)] := by
  have hcoherent : shopSettings.Coherent := .of_index?_eq_none rfl
  have hmembers : (Outline.ofText .date tagSchema).map (fun o =>
      (o.types.flatMap fun t => t.properties.map fun p => (shopSettings.styleOf t.name, p)).map
        fun m => (m.2.key, m.2.readOnly)) = .ok [(("name" : Text), false), ("tag", true)] := by
    cbv
  obtain ⟨o, ho, hmembers'⟩ := exists_of_map_eq_ok hmembers
  have hfailure : (generate { shopSettings with readOnlyKeywords := false } tagSchema {}).failure =
      none := failure_generate ho rfl
  obtain ⟨_, hdocuments⟩ := generate_read_only hcoherent tagSchema
  obtain ⟨o', lines, ho', houtput, _, hlines, _⟩ := hdocuments hfailure
  obtain rfl : o = o' := Except.ok.inj (ho.symm.trans ho')
  exact ⟨hcoherent, hfailure, lines, (houtput true).1, (houtput false).1, hlines ▸ hmembers'⟩

end SchemaTypes
