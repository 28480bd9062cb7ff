import SchemaTypes.Proofs.Generation.Output
import SchemaTypes.Proofs.Schema.Rearranged

/-!
# Independence of order

What is generated does not depend on the order in which things are written where the order does not
count.

* `Settings.Alike`: settings that differ in the order and the repetition of names.
* `documentPieces_alike`: they write the same document.
* `ofText_rearranged`: rearranged documents have the same outline, or none.
* `Failure.kind`: what kind of failure it is.
* **`generate_rearranged`**: rearranged documents are generated alike.
-/

namespace SchemaTypes

open Json

/-! ## Settings -/

/-- The settings differ in nothing but the order and the repetition of the names of classes. -/
structure Settings.Alike (s s' : Settings) : Prop where
  style : s.style = s'.style
  dateType : s.dateType = s'.dateType
  moduleName : s.moduleName = s'.moduleName
  readOnlyKeywords : s.readOnlyKeywords = s'.readOnlyKeywords
  extensionCode : s.extensionCode = s'.extensionCode
  classTypes : ∀ name, name ∈ s.classTypes.getD [] ↔ name ∈ s'.classTypes.getD []
  extendedClasses : ∀ name, name ∈ s.extendedClasses.getD [] ↔ name ∈ s'.extendedClasses.getD []

namespace ExtensionIndex

variable {names names' : List Text} (h : ∀ name, name ∈ names ↔ name ∈ names')

include h

theorem without_congr (body : Text) (spans : List ClassSpan) :
    ∀ position, without names body position spans = without names' body position spans := by
  induction spans with
  | nil => exact fun _ => rfl
  | cons s spans ih =>
    intro position
    rw [without, without]
    simp only [h, ih]

theorem remainingCode_congr (code : Text) :
    (ofCode code names).remainingCode = (ofCode code names').remainingCode :=
  congrArg Text.trim (without_congr h _ _ 0)

theorem extension?_congr (code name : Text) :
    (ofCode code names).extension? name = (ofCode code names').extension? name := by
  show (if name ∈ names then _ else _) = if name ∈ names' then _ else _
  simp only [h]
  rfl

end ExtensionIndex

section Alike

variable {s s' : Settings} (hs : s.Coherent) (hs' : s'.Coherent) (h : s.Alike s')

include h in
theorem styleOf_alike (name : Text) : s.styleOf name = s'.styleOf name := by
  have hclass : s.isClassType name = s'.isClassType name := by
    unfold Settings.isClassType
    rw [Bool.eq_iff_iff, List.contains_iff_mem, List.contains_iff_mem]
    exact h.classTypes name
  unfold Settings.styleOf
  rw [hclass, h.style]

include hs hs' h

/-- **Settings that are alike** write the same document. -/
theorem documentPieces_alike (o : Outline) : documentPieces s o = documentPieces s' o := by
  have hindex : s.index = .ofCode s'.extensionCode (s.extendedClasses.getD []) := by
    rw [hs.index_eq, ← h.extensionCode]
    rfl
  have hindex' : s'.index = .ofCode s'.extensionCode (s'.extendedClasses.getD []) := hs'.index_eq
  have hlines : typeLines s s.index = typeLines s' s'.index := by
    funext t
    unfold typeLines
    rw [hindex, hindex', ExtensionIndex.extension?_congr h.extendedClasses,
      s.template_eq_styleOf, s'.template_eq_styleOf, styleOf_alike h, h.readOnlyKeywords]
  have hremainder : remainderLines s.index = remainderLines s'.index := by
    unfold remainderLines
    rw [hindex, hindex', ExtensionIndex.remainingCode_congr h.extendedClasses]
  have hpreamble : preambleLines s.index = preambleLines s'.index := by
    rw [hindex, hindex']
    rfl
  unfold documentPieces document body
  rw [hlines, hremainder, hpreamble, h.moduleName]

end Alike

/-! ## Documents -/

section Documents

variable {t t' : Tree} {text text' : Text} (ht : t.Document text) (ht' : t'.Document text')
  (h : Rearranged .schema t t')

include ht ht' h

/-- **Rearranged documents** have the same outline, or neither of them is a schema. -/
theorem ofText_rearranged (dates : DateType) :
    (∃ fault fault', Outline.ofText dates text = .error (.json text fault) ∧
      Outline.ofText dates text' = .error (.json text' fault')) ∨
    ∃ s, Outline.ofText dates text = Outline.ofSchema dates s ∧
      Outline.ofText dates text' = Outline.ofSchema dates s := by
  have hschema : (Schema.ofText text).toOption.map Schema.canonical =
      (Schema.ofText text').toOption.map Schema.canonical := by
    rw [Schema.canonical_ofText ht, Schema.canonical_ofText ht', h.agree]
  unfold Outline.ofText
  cases hs : Schema.ofText text with
  | error fault =>
    cases hs' : Schema.ofText text' with
    | error fault' => exact .inl ⟨fault, fault', rfl, rfl⟩
    | ok s' =>
      rw [hs, hs'] at hschema
      exact absurd hschema nofun
  | ok s =>
    cases hs' : Schema.ofText text' with
    | error fault' =>
      rw [hs, hs'] at hschema
      exact absurd hschema nofun
    | ok s' =>
      rw [hs, hs'] at hschema
      have hcanonical : s.canonical = s'.canonical := Option.some.inj hschema
      refine .inr ⟨s, rfl, ?_⟩
      show Outline.ofSchema dates s' = Outline.ofSchema dates s
      rw [← Outline.ofSchema_canonical, ← hcanonical, Outline.ofSchema_canonical]

end Documents

/-! ## Generation -/

/-- The kinds of failures. -/
inductive Failure.Kind where
  | unsupportedStyle
  | unsupportedDateType
  | rootNotObject
  | noTypes
  | file
  | json
deriving DecidableEq, Repr

/-- The kind of a failure. -/
def Failure.kind : Failure → Failure.Kind
  | unsupportedStyle _ => .unsupportedStyle
  | unsupportedDateType _ => .unsupportedDateType
  | rootNotObject => .rootNotObject
  | noTypes => .noTypes
  | file _ => .file
  | json _ _ => .json

/-- **Rearranged documents are generated alike**: from documents that differ in blanks, in the order
of members, in members of schemas that are no keywords, and in the order and the repetition of
required keys and of values of enumerations, and with settings that differ in the order and the
repetition of names, either both generations fail, and for a reason of the same kind, or none does.
The same bytes are written. -/
theorem generate_rearranged {s s' : Settings} (hs : s.Coherent) (hs' : s'.Coherent)
    (halike : s.Alike s') {t t' : Tree} {text text' : Text} (ht : t.Document text)
    (ht' : t'.Document text') (h : Rearranged .schema t t') (sink : Sink) :
    (generate s text sink).failure.map Failure.kind =
        (generate s' text' sink).failure.map Failure.kind ∧
      (generate s text sink).output = (generate s' text' sink).output := by
  unfold generate
  rw [← halike.dateType]
  rcases ofText_rearranged ht ht' h s.dateType with ⟨fault, fault', ho, ho'⟩ | ⟨schema, ho, ho'⟩
  · rw [ho, ho']
    exact ⟨rfl, rfl⟩
  · rw [ho, ho']
    cases Outline.ofSchema s.dateType schema with
    | error f => exact ⟨rfl, rfl⟩
    | ok o =>
      dsimp only
      rw [documentPieces_alike hs hs' halike]
      exact ⟨rfl, rfl⟩

/-! ## A document that is rearranged -/

/-- A text as it is between quotes if nothing in it has to be escaped. -/
def plainLiteral (t : Text) : Literal :=
  t.map .char

theorem written_plainLiteral {t : Text}
    (h : (t.all fun c => 0x20 ≤ c.toNat && c ≠ '"' && c ≠ '\\') = true) :
    (plainLiteral t).Written t := by
  induction t with
  | nil => rfl
  | cons c t ih =>
    rw [List.all_cons, Bool.and_eq_true] at h
    obtain ⟨hc, ht⟩ := h
    obtain ⟨⟨hcontrol, hquote⟩, hback⟩ : (0x20 ≤ c.toNat ∧ c ≠ '"') ∧ c ≠ '\\' := by
      simpa using hc
    exact ⟨[c], t, .plain hcontrol hquote hback, ih ht, rfl⟩

/-- A schema with an enumeration of the values. -/
def sizeTree (values : List Text) : Tree :=
  .object [(plainLiteral "enum", .array (values.map fun v => .string (plainLiteral v)))]

/-- Shirts that come in two sizes. -/
def shirtTree : Tree :=
  .object [(plainLiteral "type", .string (plainLiteral "object")),
    (plainLiteral "properties", .object [(plainLiteral "size", sizeTree ["S", "L"])])]

/-- The same with the keywords and the sizes in another order, one size twice, and a key that is no
keyword. -/
def otherShirtTree : Tree :=
  .object [(plainLiteral "properties",
      .object [(plainLiteral "size", sizeTree ["L", "S", "L"])]),
    (plainLiteral "id", .null), (plainLiteral "type", .string (plainLiteral "object"))]

/-- The schema with the one tree. -/
def shirtSchema : Text :=
  "\x7b\"type\":\"object\",\"properties\":\x7b\"size\":\x7b\"enum\":[\"S\",\"L\"]\x7d\x7d\x7d"

/-- The schema with the other tree. -/
def otherShirtSchema : Text :=
  ("\x7b\"properties\":\x7b\"size\":\x7b\"enum\":[\"L\",\"S\",\"L\"]\x7d\x7d,\n" : Text) ++
    " \"id\":null,\n \"type\":\"object\"\x7d\n"

/-- Settings for the one schema. -/
def shirtSettings : Settings :=
  { classTypes := some ["Root", "Shirt"] }

/-- Settings that are alike, for the other schema. -/
def otherShirtSettings : Settings :=
  { classTypes := some ["Shirt", "Root", "Shirt"], extendedClasses := some [] }

theorem writtenMember_plain {key x : Text} {v : Tree} (hkey : (plainLiteral key).Written key)
    (hx : v.Written x) : WrittenMember (plainLiteral key, v) ('"' :: (key ++ '"' :: ':' :: x)) :=
  ⟨key, [], [], x, hkey, .nil, .nil, hx, rfl⟩

theorem written_string {t : Text} (h : (plainLiteral t).Written t) :
    (Tree.string (plainLiteral t)).Written ('"' :: (t ++ ['"'])) :=
  ⟨t, h, rfl⟩

theorem written_object_singleton {m : Literal × Tree} {x : Text} (h : WrittenMember m x) :
    (Tree.object [m]).Written ('\x7b' :: (x ++ ['\x7d'])) :=
  ⟨[], x, [], _, .nil, h, .nil, rfl, rfl⟩

theorem written_sizes (values : List Text) {x : Text}
    (h : (Tree.array (values.map fun v => .string (plainLiteral v))).Written x) :
    WrittenMember (plainLiteral "properties", .object [(plainLiteral "size", sizeTree values)])
      ("\"properties\":\x7b\"size\":\x7b\"enum\":" ++ x ++ "\x7d\x7d") := by
  have hsize := writtenMember_plain (written_plainLiteral (t := "size") (by cbv))
    (written_object_singleton (writtenMember_plain (written_plainLiteral (t := "enum") (by cbv)) h))
  have hproperties := writtenMember_plain (written_plainLiteral (t := "properties") (by cbv))
    (written_object_singleton hsize)
  simpa [Text.ofString_eq, sizeTree] using hproperties

theorem shirtTree_document : shirtTree.Document shirtSchema := by
  have hS := written_string (written_plainLiteral (t := "S") (by cbv))
  have hL := written_string (written_plainLiteral (t := "L") (by cbv))
  have htype := writtenMember_plain (written_plainLiteral (t := "type") (by cbv))
    (written_string (written_plainLiteral (t := "object") (by cbv)))
  have hsizes := written_sizes ["S", "L"]
    ⟨[], _, [], _, .nil, hS, .nil, ⟨[], _, [], _, .nil, hL, .nil, rfl, rfl⟩, rfl⟩
  refine ⟨[], _, [], .nil, ⟨[], _, [], _, .nil, htype, .nil,
    ⟨[], _, [], _, .nil, hsizes, .nil, rfl, rfl⟩, rfl⟩, .nil, ?_⟩
  cbv

theorem otherShirtTree_document : otherShirtTree.Document otherShirtSchema := by
  have hS := written_string (written_plainLiteral (t := "S") (by cbv))
  have hL := written_string (written_plainLiteral (t := "L") (by cbv))
  have htype := writtenMember_plain (written_plainLiteral (t := "type") (by cbv))
    (written_string (written_plainLiteral (t := "object") (by cbv)))
  have hid := writtenMember_plain (v := .null) (written_plainLiteral (t := "id") (by cbv)) rfl
  have hsizes := written_sizes ["L", "S", "L"]
    ⟨[], _, [], _, .nil, hL, .nil, ⟨[], _, [], _, .nil, hS, .nil,
      ⟨[], _, [], _, .nil, hL, .nil, rfl, rfl⟩, rfl⟩, rfl⟩
  have hbreak : Blanks ['\n', ' '] := by simp [Blanks, isBlank]
  refine ⟨[], _, ['\n'], .nil, ⟨[], _, [], _, .nil, hsizes, .nil,
    ⟨['\n', ' '], _, [], _, hbreak, hid, .nil,
      ⟨['\n', ' '], _, [], _, hbreak, htype, .nil, rfl, rfl⟩, rfl⟩, rfl⟩, ?_, ?_⟩
  · simp [Blanks, isBlank]
  · cbv

theorem shirtTree_rearranged : Rearranged .schema shirtTree otherShirtTree := by
  have henum : Place.member .schema (plainLiteral "enum").text? = .choices := by cbv
  have hproperties : Place.member .schema (plainLiteral "properties").text? = .properties := by
    cbv
  have hchoices : Rearranged (Place.member .schema (plainLiteral "enum").text?)
      (.array [.string (plainLiteral "S"), .string (plainLiteral "L")])
      (.array [.string (plainLiteral "L"), .string (plainLiteral "S"),
        .string (plainLiteral "L")]) := by
    rw [henum]
    refine .choices fun v => ?_
    simp only [List.mem_cons, List.not_mem_nil, or_false]
    tauto
  have hsizes : Rearranged .schema (sizeTree ["S", "L"]) (sizeTree ["L", "S", "L"]) :=
    .member hchoices [] []
  have hshirts : Rearranged (Place.member .schema (plainLiteral "properties").text?)
      (.object [(plainLiteral "size", sizeTree ["S", "L"])])
      (.object [(plainLiteral "size", sizeTree ["L", "S", "L"])]) := by
    rw [hproperties]
    exact .member (p := .properties) hsizes [] []
  have hkeys : DistinctKeys [(plainLiteral "type", .string (plainLiteral "object")),
      (plainLiteral "properties", .object [(plainLiteral "size", sizeTree ["L", "S", "L"])])] := by
    unfold DistinctKeys
    cbv
    decide
  have hid : (plainLiteral "id").text? = some ("id" : Text) := by cbv
  have hunknown : Schema.keyword? "id" = none := by cbv
  exact .trans (.member hshirts [_] []) (.trans (.order (.swap _ _ []) hkeys)
    (.symm (.unknown hid hunknown .null [_] [_])))

set_option maxRecDepth 100000 in
/-- The shirts are generated alike. -/
theorem shirts_rearranged :
    shirtSettings.Coherent ∧ otherShirtSettings.Coherent ∧
      shirtSettings.Alike otherShirtSettings ∧ shirtTree.Document shirtSchema ∧
      otherShirtTree.Document otherShirtSchema ∧ Rearranged .schema shirtTree otherShirtTree ∧
      (generate shirtSettings shirtSchema {}).failure = none ∧
      (generate otherShirtSettings otherShirtSchema {}).failure = none ∧
      (generate shirtSettings shirtSchema {}).output =
        (generate otherShirtSettings otherShirtSchema {}).output := by
  have hcoherent : shirtSettings.Coherent := .of_index?_eq_none rfl
  have hcoherent' : otherShirtSettings.Coherent := .of_index?_eq_none rfl
  have halike : shirtSettings.Alike otherShirtSettings := by
    refine ⟨rfl, rfl, rfl, rfl, rfl, fun name => ?_, fun name => Iff.rfl⟩
    simp only [shirtSettings, otherShirtSettings, Option.getD_some, List.mem_cons,
      List.not_mem_nil, or_false]
    tauto
  have hnames : (Outline.ofText .date shirtSchema).map
      (fun o => o.types.map TypeDeclaration.name) = .ok [("Root" : Text)] := by
    cbv
  obtain ⟨o, ho, _⟩ := exists_of_map_eq_ok hnames
  have hfailure : (generate shirtSettings shirtSchema {}).failure = none := failure_generate ho rfl
  obtain ⟨hkind, houtput⟩ := generate_rearranged hcoherent hcoherent' halike shirtTree_document
    otherShirtTree_document shirtTree_rearranged {}
  rw [hfailure] at hkind
  have hfailure' : (generate otherShirtSettings otherShirtSchema {}).failure = none :=
    Option.map_eq_none_iff.mp hkind.symm
  exact ⟨hcoherent, hcoherent', halike, shirtTree_document, otherShirtTree_document,
    shirtTree_rearranged, hfailure, hfailure', houtput⟩

end SchemaTypes
