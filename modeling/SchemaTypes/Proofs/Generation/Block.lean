import SchemaTypes.Generation.Block
import SchemaTypes.Proofs.Scan.Comment
import SchemaTypes.Proofs.Scan.Literal
import SchemaTypes.Proofs.Scan.Yield
import SchemaTypes.Proofs.Text.Names

/-!
# Blocks in a scan

Between its header and its last brace a block is neutral, whatever stands in the schema.

* `Property.Sound`, `TypeDeclaration.Sound`, `EnumDeclaration.Sound`: names and initializers are
  as they are made from a schema.
* `neutral_memberLines`, `neutral_trailerLines`: the lines in a block.
* `TypeDeclaration.text`, `EnumDeclaration.text`: a block from its header to its last brace.
* **`TypeDeclaration.Sound.yields_text`**: the block of a class is a class, and no other is.
-/

namespace SchemaTypes

/-! ## Names -/

theorem NameText.inert {t : Text} (h : NameText t) : Inert t := by
  have low : marks.all (fun d => d.toNat < 0x80 && !isNamePart d) = true := by decide
  intro c hc
  refine decide_eq_true fun hm => ?_
  have hlow := List.all_eq_true.mp low c hm
  simp only [Bool.and_eq_true, decide_eq_true_eq, Bool.not_eq_true'] at hlow
  have := h c hc hlow.1
  rw [hlow.2] at this
  exact Bool.noConfusion this

theorem NameText.no_newline {t : Text} (h : NameText t) : '\n' ∉ t := by
  intro hc
  have := h '\n' hc (by decide)
  exact absurd this (by decide)

theorem TypeName.isName {t : Text} (h : TypeName t) (hascii : ∀ c ∈ t, c.toNat < 0x80) :
    IsName t := by
  have hpart : ∀ c ∈ t, isNamePart c = true := fun c hc => h.characters c hc (hascii c hc)
  cases t with
  | nil => exact absurd rfl h.nonempty
  | cons c r =>
    refine ⟨c, r, rfl, ?_, fun d hd => hpart d (List.mem_cons_of_mem _ hd)⟩
    have hdigit : c.isDigit = false := h.no_digit
    have := hpart c List.mem_cons_self
    simpa [isNamePart, isNameStart, Char.isAlphanum, hdigit] using this

/-! ## What is made from a schema -/

/-- The names in the type are made of characters of names. -/
def TypeExpr.NamesSound : TypeExpr → Prop
  | named name => NameText name
  | array element => element.NamesSound
  | _ => True

/-- The names in the type of a property are sound and its initializer is neutral. -/
structure Property.Sound (p : Property) : Prop where
  type : p.type.NamesSound
  initializer : ∀ i ∈ p.initializer, Neutral i.text

/-- A type with a type name and sound properties. -/
structure TypeDeclaration.Sound (t : TypeDeclaration) : Prop where
  name : TypeName t.name
  properties : ∀ p ∈ t.properties, p.Sound

/-- An enumeration with sound names. -/
structure EnumDeclaration.Sound (e : EnumDeclaration) : Prop where
  name : TypeName e.name
  members : ∀ m ∈ e.members, NameText m.name

/-! ## Lines in a block -/

theorem neutral_word (w : String) (h : Inert w.toList) : Neutral (w : Text) := by
  rw [Text.ofString_eq]
  exact neutral_inert h

theorem TypeExpr.NamesSound.neutral_text : {type : TypeExpr} → type.NamesSound → Neutral type.text
  | named _, h => neutral_inert h.inert
  | array _, h => by
    rw [text]
    exact .append (neutral_text h) (neutral_word _ (by decide))
  | string, _ | number, _ | boolean, _ | date, _ | any, _ => neutral_word _ (by decide)
  | openObject, _ => by
    rw [text, Text.ofString_eq]
    exact (neutral_inert (x := [' ', '[', 'k', 'e', 'y', ':', ' ', 's', 't', 'r', 'i', 'n', 'g',
      ']', ':', ' ', 'a', 'n', 'y', ' ']) (by decide)).braces

theorem TypeExpr.NamesSound.noControl_text :
    {type : TypeExpr} → type.NamesSound → NoControl type.text
  | named _, h => NameText.noControl h
  | array _, h => by
    rw [text]
    exact .append (noControl_text h) (.of_string (by decide))
  | string, _ | number, _ | boolean, _ | date, _ | any, _ | openObject, _ =>
    .of_string (by decide)

theorem neutral_propertyName (key : Text) : Neutral (propertyName key) := by
  unfold propertyName
  split
  · next h =>
    exact neutral_inert fun c hc => isInert_of_class (p := isIdentifierPart) (by decide)
      (isIdentifierPart_of_mem h hc)
  · exact Json.neutral_stringLiteral key

theorem Property.Sound.neutral_argument {p : Property} (h : p.Sound) : Neutral (argument p) := by
  unfold argument
  split
  · exact neutral_nil
  · next i hi => exact h.initializer i hi

theorem Property.Sound.neutral_assignment {p : Property} (h : p.Sound) :
    Neutral (assignment p) := by
  unfold assignment
  split
  · exact neutral_nil
  · next i hi => exact (neutral_word _ (by decide)).append (h.initializer i hi)

theorem Property.Sound.neutral_observableCall {p : Property} (h : p.Sound) :
    Neutral (observableCall p) := by
  have ht := h.type
  unfold observableCall
  split
  · next element e =>
    rw [e] at ht
    have he : element.NamesSound := ht
    exact .append (.append (.append (.append (neutral_word _ (by decide)) he.neutral_text)
      (neutral_word _ (by decide))) h.neutral_argument) (neutral_word _ (by decide))
  · exact .append (.append (.append (.append (neutral_word _ (by decide)) ht.neutral_text)
      (neutral_word _ (by decide))) h.neutral_argument) (neutral_word _ (by decide))

theorem Property.Sound.neutral_memberTail {p : Property} (h : p.Sound) (style : Style) :
    Neutral (memberTail p style) := by
  cases style with
  | interface =>
    refine .append (.append ?_ (neutral_word _ (by decide))) h.type.neutral_text
    split <;> exact neutral_inert (by decide)
  | plainClass =>
    refine .append (.append (.append ?_ (neutral_word _ (by decide))) h.type.neutral_text)
      h.neutral_assignment
    unfold presenceMark
    split
    · exact neutral_nil
    · split <;> exact neutral_inert (by decide)
  | observableClass => exact .append (neutral_word _ (by decide)) h.neutral_observableCall

theorem blank_indentation : Blank indentation := by
  intro c hc
  rw [indentation, Text.ofString_eq] at hc
  simpa using hc

theorem neutral_newline : Neutral ['\n'] := neutral_inert (by decide)

theorem Neutral.unlines {ls : List Text} (h : ∀ l ∈ ls, Neutral l) : Neutral (unlines ls) :=
  .flatMap fun l hl => (h l hl).append neutral_newline

theorem Property.Sound.neutral_memberLine {p : Property} (h : p.Sound) (style : Style)
    (keywords : Bool) : Neutral (memberLine style keywords p) := by
  unfold memberLine readOnlyMark
  refine .append (.append (.append (.append (neutral_inert blank_indentation.inert) ?_)
    (neutral_propertyName p.key)) (h.neutral_memberTail style)) (neutral_word _ (by decide))
  split
  · exact neutral_word _ (by decide)
  · exact neutral_nil

/-- **The lines of a property.** -/
theorem Property.Sound.neutral_memberLines {p : Property} (h : p.Sound) (style : Style)
    (keywords : Bool) : Neutral (SchemaTypes.unlines (memberLines style keywords p)) := by
  unfold memberLines
  rw [unlines_append]
  refine .append (neutral_docComment blank_indentation _) (.unlines fun l hl => ?_)
  rw [List.mem_singleton.mp hl]
  exact h.neutral_memberLine style keywords

/-- **The constructor of a class**, whose braces are closed in their order. -/
theorem neutral_constructorLines {name : Text} (h : NameText name) :
    Neutral (unlines (constructorLines name)) := by
  have e : unlines (constructorLines name) =
      "    constructor(data?: Partial<".toList ++ name ++ ">) ".toList ++
        ('\x7b' :: ("\n        if (data) ".toList ++
          ('\x7b' :: "\n            Object.assign(this, data);\n        ".toList ++ ['\x7d']) ++
            "\n    ".toList) ++ ['\x7d']) ++ ['\n'] := by
    simp [constructorLines, unlines, Text.ofString_eq]
  have inner : Neutral ('\x7b' :: "\n            Object.assign(this, data);\n        ".toList ++
      ['\x7d']) := (neutral_inert (by decide)).braces
  have outer := (((neutral_inert (x := "\n        if (data) ".toList) (by decide)).append
    inner).append (neutral_inert (x := "\n    ".toList) (by decide))).braces
  rw [e]
  exact .append (.append (.append (.append (neutral_inert (by decide)) (neutral_inert h.inert))
    (neutral_inert (by decide))) outer) neutral_newline

theorem neutral_trailerLines {name : Text} (h : NameText name) (properties : List Property)
    (style : Style) : Neutral (unlines (trailerLines name properties style)) := by
  cases style with
  | plainClass =>
    unfold trailerLines
    rw [unlines_append]
    refine .append ?_ (neutral_constructorLines h)
    split
    · exact neutral_nil
    · exact neutral_newline
  | interface => exact neutral_nil
  | observableClass => exact neutral_nil

theorem EnumMember.neutral_line {m : EnumMember} (h : NameText m.name) : Neutral m.line := by
  unfold EnumMember.line
  exact .append (.append (.append (.append (neutral_inert blank_indentation.inert)
    (neutral_inert h.inert)) (neutral_word _ (by decide))) (Json.neutral_stringLiteral _))
    (neutral_word _ (by decide))

/-! ## Blocks -/

/-- A block up to its first brace. -/
def blockHeader (keyword name : Text) : Text :=
  "export " ++ keyword ++ " " ++ name ++ " "

/-- A type from its header to its last brace, written under a name. -/
def TypeDeclaration.text (t : TypeDeclaration) (style : Style) (keywords : Bool) (name : Text) :
    Text :=
  blockHeader style.keyword name ++ '\x7b' :: '\n' ::
    unlines (t.properties.flatMap (memberLines style keywords) ++
      trailerLines name t.properties style) ++ ['\x7d']

/-- An enumeration from its header to its last brace. -/
def EnumDeclaration.text (e : EnumDeclaration) : Text :=
  blockHeader "enum" e.name ++ '\x7b' :: '\n' :: unlines (e.members.map EnumMember.line) ++ ['\x7d']

/-- **The block of a type** is its text between the comment and a blank line. -/
theorem unlines_typeBlock (style : Style) (keywords : Bool) (name : Text) (t : TypeDeclaration) :
    unlines (typeBlock style keywords name t) =
      unlines (docComment [] t.description) ++ (t.text style keywords name ++ ['\n', '\n']) := by
  simp [typeBlock, TypeDeclaration.text, blockHeader, closingLines, Text.ofString_eq]

/-- **The block of an enumeration** is its text between the comment and a blank line. -/
theorem unlines_enumBlock (e : EnumDeclaration) :
    unlines (enumBlock e) = unlines (docComment [] e.description) ++ (e.text ++ ['\n', '\n']) := by
  simp [enumBlock, EnumDeclaration.text, blockHeader, closingLines, Text.ofString_eq]

/-! ## Blocks in a scan -/

theorem headerText_blockHeader {keyword name : Text} (hk : NameText keyword) (h : NameText name) :
    HeaderText (blockHeader keyword name) := by
  have hw : Inert ("export " : Text) ∧ '\n' ∉ ("export " : Text) := by
    rw [Text.ofString_eq]; decide
  have hs : Inert (" " : Text) ∧ '\n' ∉ (" " : Text) := by
    rw [Text.ofString_eq]; decide
  unfold blockHeader
  refine ⟨.append (.append (.append (.append hw.1 hk.inert) hs.1) h.inert) hs.1, ?_, ?_⟩
  · simp only [List.mem_append, not_or]
    exact ⟨⟨⟨⟨hw.2, hk.no_newline⟩, hs.2⟩, h.no_newline⟩, hs.2⟩
  · simp [Text.ofString_eq]

theorem classHeader?_class {name : Text} (h : IsName name) (rest : Text) :
    classHeader? (blockHeader "class" name ++ rest) = some name := by
  have word : ∀ w : Text, IsWord w (w ++ " ") := fun w => by
    rw [Text.ofString_eq]
    exact ⟨[' '], by simp, by simp [IsSpacing, isSpacing], rfl⟩
  have hspace : isNamePart ' ' = false := by decide
  refine classHeader?_eq_some_iff.mpr
    ⟨[], "export" ++ " ", [], [], "class" ++ " ", " " ++ rest, ?_, by simp [IsSpacing],
      .inr (word _), .inl rfl, .inl rfl, word _, h, ?_⟩
  · simp [blockHeader, Text.ofString_eq]
  · simp [Text.ofString_eq, hspace]

theorem classHeader?_interface (name rest : Text) :
    classHeader? (blockHeader "interface" name ++ '\x7b' :: rest) = none := by
  simp [blockHeader, classHeader?, skipWord, word?, skipSpacing, isSpacing, Text.startsWith,
    Text.ofString_eq]

theorem classHeader?_enum (name rest : Text) :
    classHeader? (blockHeader "enum" name ++ '\x7b' :: rest) = none := by
  simp [blockHeader, classHeader?, skipWord, word?, skipSpacing, isSpacing, Text.startsWith,
    Text.ofString_eq]

theorem EnumDeclaration.Sound.passes_text {e : EnumDeclaration} (h : e.Sound) :
    Passes e.text {} (({} : ScanState).within .code) := by
  have hk : NameText ("enum" : Text) := by
    rw [Text.ofString_eq]; decide
  have hi : Neutral ('\n' :: unlines (e.members.map EnumMember.line)) := by
    refine neutral_newline.append (.unlines fun l hl => ?_)
    obtain ⟨m, hm, rfl⟩ := List.mem_map.mp hl
    exact EnumMember.neutral_line (h.members m hm)
  exact passes_block_of_no_header (headerText_blockHeader hk h.name.characters) hi
    (classHeader?_enum e.name)

/-- Are types declared as classes in the style? -/
def Style.isClass : Style → Bool
  | .interface => false
  | .plainClass | .observableClass => true

namespace TypeDeclaration.Sound

variable {t : TypeDeclaration}

theorem neutral_inner (h : t.Sound) (style : Style) (keywords : Bool) {name : Text}
    (hname : NameText name) : Neutral ('\n' ::
      unlines (t.properties.flatMap (memberLines style keywords) ++
        trailerLines name t.properties style)) := by
  rw [unlines_append]
  refine neutral_newline.append (.append ?_ (neutral_trailerLines hname t.properties style))
  unfold unlines
  rw [List.flatMap_assoc]
  exact .flatMap fun p hp => (h.properties p hp).neutral_memberLines style keywords

/-- **A type is a class of the code exactly if its style is one of classes.** -/
theorem yields_text (h : t.Sound) (hascii : ∀ c ∈ t.name, c.toNat < 0x80) (style : Style)
    (keywords : Bool) :
    Yields (t.text style keywords t.name) {} (({} : ScanState).within .code)
      (if style.isClass then [(t.name, t.text style keywords t.name)] else []) := by
  have hi := h.neutral_inner style keywords h.name.characters
  have hc : NameText ("class" : Text) ∧ NameText ("interface" : Text) := by
    rw [Text.ofString_eq, Text.ofString_eq]; decide
  have hname := h.name.isName hascii
  cases style with
  | interface =>
    exact (passes_block_of_no_header (headerText_blockHeader hc.2 h.name.characters) hi
      (classHeader?_interface t.name)).yields
  | plainClass =>
    exact yields_class (headerText_blockHeader hc.1 h.name.characters) hi
      fun _ => classHeader?_class hname _
  | observableClass =>
    exact yields_class (headerText_blockHeader hc.1 h.name.characters) hi
      fun _ => classHeader?_class hname _

end TypeDeclaration.Sound

end SchemaTypes
