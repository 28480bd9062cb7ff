import SchemaTypes.Proofs.Declaration.Order
import SchemaTypes.Proofs.Extension.Pieces
import SchemaTypes.Proofs.Generation.Output

/-!
# The layout of a document

A document outside a module is told in pieces, so that it can be seen which classes of the
hand-written code have gone into it, and where.

* `Settings.handwritten`, `Settings.spans`: the hand-written code and its classes.
* `Settings.extensionSpan?`: the class that extends a type.
* `layout`: the pieces of a document.
* **`textOf_layout`**: their text is the document; `spansIn_layout`: the classes in it.
-/

namespace SchemaTypes

/-! ## Hand-written code -/

namespace Settings

/-- The hand-written code without its imports. -/
def handwritten (s : Settings) : Text :=
  (ExtensionIndex.split s.extensionCode).body

/-- The classes of the hand-written code. -/
def spans (s : Settings) : List ClassSpan :=
  ExtensionIndex.spansOf s.handwritten

/-- The names of the extended classes. -/
def extendedNames (s : Settings) : List Text :=
  s.extendedClasses.getD []

/-- The class that extends the type with the name. -/
def extensionSpan? (s : Settings) (name : Text) : Option ClassSpan :=
  if s.extendedNames.contains name then s.spans.find? (·.name = name) else none

variable {s : Settings}

theorem spaced_spans (s : Settings) : Spaced s.handwritten 0 s.spans :=
  ExtensionIndex.spaced_spansOf s.handwritten

theorem solid_text {c : ClassSpan} (hc : c ∈ s.spans) : Solid (c.text s.handwritten) :=
  s.spaced_spans.solid_text c hc

theorem class?_freshIndex (s : Settings) (name : Text) :
    s.freshIndex.class? name =
      (s.spans.find? (·.name = name)).map (ExtensionIndex.classAt s.handwritten) := by
  show (s.spans.map (ExtensionIndex.classAt s.handwritten)).find? (·.name = name) = _
  rw [List.find?_map]
  rfl

theorem extension?_freshIndex (s : Settings) (name : Text) :
    s.freshIndex.extension? name =
      (s.extensionSpan? name).map (ExtensionIndex.classAt s.handwritten) := by
  unfold ExtensionIndex.extension? extensionSpan?
  by_cases h : name ∈ s.extendedNames
  · have h' : name ∈ s.freshIndex.extended := h
    rw [if_pos (List.contains_iff_mem.mpr h), if_pos h', class?_freshIndex]
  · have h' : name ∉ s.freshIndex.extended := h
    rw [if_neg (mt List.contains_iff_mem.mp h), if_neg h']
    rfl

theorem extensionSpan?_eq_some_iff {name : Text} {c : ClassSpan} :
    s.extensionSpan? name = some c ↔
      name ∈ s.extendedNames ∧ s.spans.find? (·.name = name) = some c := by
  unfold extensionSpan?
  by_cases h : name ∈ s.extendedNames
  · rw [if_pos (List.contains_iff_mem.mpr h)]
    exact ⟨fun hc => ⟨h, hc⟩, And.right⟩
  · rw [if_neg (mt List.contains_iff_mem.mp h)]
    exact ⟨fun hc => absurd hc nofun, fun hc => absurd hc.1 h⟩

theorem mem_spans_of_extensionSpan? {name : Text} {c : ClassSpan}
    (h : s.extensionSpan? name = some c) : c ∈ s.spans ∧ c.name = name := by
  have hfind := (extensionSpan?_eq_some_iff.mp h).2
  exact ⟨List.mem_of_find?_eq_some hfind, by simpa using List.find?_some hfind⟩

end Settings

/-! ## Pieces of a document -/

/-- The block of a type that is written under a name. -/
def blockText (s : Settings) (name : Text) (t : TypeDeclaration) : Text :=
  unlines (typeBlock (s.styleOf t.name) s.readOnlyKeywords name t)

/-- The pieces of a type: its block, and the class that extends it. -/
def typePieces (s : Settings) (t : TypeDeclaration) : List Piece :=
  match s.extensionSpan? t.name with
  | some c => [.other (blockText s (baseName t.name) t), .declared c, .other ['\n', '\n']]
  | none => [.other (blockText s t.name t)]

/-- What is left of the hand-written code, in pieces. -/
def remainderPieces (s : Settings) : List Piece :=
  trimStartPieces (remainder s.extendedNames s.handwritten 0 s.spans)

/-- The pieces of a document outside a module. -/
def layout (s : Settings) (o : Outline) : List Piece :=
  .other (unlines (preambleLines s.freshIndex)) ::
    trimEndPieces (.other (unlines (o.declarations.enums.values.flatMap enumBlock)) ::
      (o.types.flatMap (typePieces s) ++ remainderPieces s)) ++ [.other ['\n']]

theorem spansIn_typePieces (s : Settings) (t : TypeDeclaration) :
    spansIn (typePieces s t) = (s.extensionSpan? t.name).toList := by
  unfold typePieces
  cases s.extensionSpan? t.name <;> rfl

theorem spansIn_flatMap_typePieces (s : Settings) (ts : List TypeDeclaration) :
    spansIn (ts.flatMap (typePieces s)) = ts.filterMap fun t => s.extensionSpan? t.name := by
  induction ts with
  | nil => rfl
  | cons t ts ih =>
    rw [List.flatMap_cons, spansIn_append, spansIn_typePieces, ih, List.filterMap_cons]
    cases s.extensionSpan? t.name <;> rfl

/-- **The classes in a document**: those that extend its types, and those that extend none. -/
theorem spansIn_layout (s : Settings) (o : Outline) :
    spansIn (layout s o) =
      (o.types.filterMap fun t => s.extensionSpan? t.name) ++
        s.spans.filter (·.name ∉ s.extendedNames) := by
  unfold layout remainderPieces
  rw [List.cons_append, spansIn_other, spansIn_append, spansIn_trimEndPieces, spansIn_other,
    spansIn_append, spansIn_flatMap_typePieces, spansIn_trimStartPieces, spansIn_remainder]
  exact List.append_nil _

theorem textOf_typePieces (s : Settings) (t : TypeDeclaration) :
    textOf s.handwritten (typePieces s t) = unlines (typeLines s s.freshIndex t) := by
  unfold typePieces typeLines
  rw [s.extension?_freshIndex, s.template_eq_styleOf]
  cases s.extensionSpan? t.name with
  | none => exact List.append_nil _
  | some c =>
    dsimp only [Option.map_some]
    rw [unlines_append]
    show blockText s (baseName t.name) t ++ (c.text s.handwritten ++ (['\n', '\n'] ++ [])) = _
    rw [List.append_nil]
    show _ = blockText s (baseName t.name) t ++ (c.text s.handwritten ++ ['\n'] ++ ['\n'])
    rw [List.append_assoc]
    rfl

theorem textOf_flatMap_typePieces (s : Settings) (ts : List TypeDeclaration) :
    textOf s.handwritten (ts.flatMap (typePieces s)) =
      unlines (ts.flatMap (typeLines s s.freshIndex)) := by
  induction ts with
  | nil => rfl
  | cons t ts ih =>
    rw [List.flatMap_cons, List.flatMap_cons, textOf_append, textOf_typePieces, ih, unlines_append]

theorem solid_of_mem_remainder {s : Settings} {c : ClassSpan}
    (h : c ∈ spansIn (remainder s.extendedNames s.handwritten 0 s.spans)) :
    Solid (c.text s.handwritten) := by
  rw [spansIn_remainder] at h
  exact Settings.solid_text (List.mem_filter.mp h).1

theorem textOf_remainderPieces (s : Settings) :
    textOf s.handwritten (remainderPieces s) =
      Text.trimStart (ExtensionIndex.without s.extendedNames s.handwritten 0 s.spans) := by
  unfold remainderPieces
  rw [textOf_trimStartPieces fun c hc => solid_of_mem_remainder hc,
    textOf_remainder s.spaced_spans]

theorem trimEnd_append_remainderLines (x : Text) (index : ExtensionIndex) :
    Text.trimEnd (x ++ unlines (remainderLines index)) =
      Text.trimEnd (x ++ index.remainingCode) := by
  have hnewline : Text.trimEnd ['\n'] = [] := by decide
  unfold remainderLines
  split_ifs with h
  · rw [List.isEmpty_iff.mp h]
    rfl
  · show Text.trimEnd (x ++ (index.remainingCode ++ ['\n'] ++ [])) = _
    rw [List.append_nil, ← List.append_assoc, Text.trimEnd_append_of_eq_nil hnewline]

/-- **The text of the pieces is the document.** -/
theorem textOf_layout {s : Settings} (hmodule : s.moduleName = []) (o : Outline) :
    textOf s.handwritten (layout s o) = documentText s s.freshIndex o := by
  have hsolid : ∀ c ∈ spansIn (.other (unlines (o.declarations.enums.values.flatMap enumBlock)) ::
      (o.types.flatMap (typePieces s) ++ remainderPieces s)), Solid (c.text s.handwritten) := by
    intro c hc
    rw [spansIn_other, spansIn_append, spansIn_flatMap_typePieces] at hc
    rcases List.mem_append.mp hc with hc | hc
    · obtain ⟨t, _, ht⟩ := List.mem_filterMap.mp hc
      exact Settings.solid_text (Settings.mem_spans_of_extensionSpan? ht).1
    · unfold remainderPieces at hc
      rw [spansIn_trimStartPieces] at hc
      exact solid_of_mem_remainder hc
  have hbody : textOf s.handwritten (trimEndPieces
      (.other (unlines (o.declarations.enums.values.flatMap enumBlock)) ::
        (o.types.flatMap (typePieces s) ++ remainderPieces s))) = body s s.freshIndex o := by
    rw [(textOf_trimEndPieces hsolid).1, textOf_cons, textOf_append, textOf_flatMap_typePieces,
      textOf_remainderPieces, body, unlines_append, unlines_append,
      trimEnd_append_remainderLines]
    show Text.trimEnd (_ ++ (_ ++ _)) = Text.trimEnd (_ ++ Text.trimEnd (Text.trimStart _))
    rw [Text.trimEnd_append_trimEnd, List.append_assoc]
    rfl
  unfold layout documentText document moduleLines
  rw [hmodule, List.isEmpty_nil, if_pos rfl, unlines_append, List.cons_append, textOf_cons,
    textOf_append, hbody, unlines_cons, unlines_nil]
  rfl

end SchemaTypes
