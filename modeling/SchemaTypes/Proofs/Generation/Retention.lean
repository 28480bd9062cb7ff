import Mathlib
import SchemaTypes.Proofs.Generation.Layout

/-!
# Which classes are retained

A class of the hand-written code may get lost: one whose name is that of an extended class is taken
out of the code, and goes into the document only behind a type of its name, and only if it is the
first of its name.

* `Retained`: the condition under which a class goes into the document.
* `mem_spansIn_layout_iff`: it is necessary and sufficient.
* `WrittenAsBase`: a type is written as the base of a class, which follows.
* **`all_retained_iff`**: when every class is in the document, and every extended class is either
  there behind its base or told to be missing.
-/

namespace SchemaTypes

/-! ## Classes in a document -/

/-- A class is not extended, or it is the first of its name and the document has a type of this
name. -/
def Retained (s : Settings) (o : Outline) (c : ClassSpan) : Prop :=
  c.name ∈ s.extendedNames →
    (∃ t ∈ o.types, t.name = c.name) ∧ s.spans.find? (·.name = c.name) = some c

variable {s : Settings} {o : Outline}

/-- **A class is in the document** if and only if it is retained. -/
theorem mem_spansIn_layout_iff {c : ClassSpan} (hc : c ∈ s.spans) :
    c ∈ spansIn (layout s o) ↔ Retained s o c := by
  rw [spansIn_layout, List.mem_append, List.mem_filterMap, List.mem_filter]
  constructor
  · rintro (⟨t, ht, hspan⟩ | ⟨_, hname⟩) hext
    · have hfind := (Settings.extensionSpan?_eq_some_iff.mp hspan).2
      have hcname := (Settings.mem_spans_of_extensionSpan? hspan).2
      rw [← hcname] at hfind
      exact ⟨⟨t, ht, hcname.symm⟩, hfind⟩
    · exact absurd hext (of_decide_eq_true hname)
  · intro h
    by_cases hext : c.name ∈ s.extendedNames
    · obtain ⟨⟨t, ht, hname⟩, hfind⟩ := h hext
      refine .inl ⟨t, ht, Settings.extensionSpan?_eq_some_iff.mpr ?_⟩
      rw [hname]
      exact ⟨hext, hfind⟩
    · exact .inr ⟨hc, decide_eq_true hext⟩

theorem mem_spans_of_mem_layout {c : ClassSpan} (hc : c ∈ spansIn (layout s o)) : c ∈ s.spans := by
  rw [spansIn_layout, List.mem_append, List.mem_filterMap, List.mem_filter] at hc
  rcases hc with ⟨t, _, hspan⟩ | ⟨hc, _⟩
  · exact (Settings.mem_spans_of_extensionSpan? hspan).1
  · exact hc

/-- **No class is in the document twice.** -/
theorem nodup_spansIn_layout (h : o.declarations.Filed) : (spansIn (layout s o)).Nodup := by
  have htypes : (o.types.filterMap fun t => s.extensionSpan? t.name).Nodup := by
    have hnames := (Outline.nodup_name_types h).filterMap (f := s.extensionSpan?) ?_
    · rw [List.filterMap_map] at hnames
      exact hnames
    · intro a b c ha hb
      have hca := (Settings.mem_spans_of_extensionSpan? ha).2
      have hcb := (Settings.mem_spans_of_extensionSpan? hb).2
      exact hca.symm.trans hcb
  have hothers : (s.spans.filter (·.name ∉ s.extendedNames)).Nodup := s.spaced_spans.nodup.filter _
  rw [spansIn_layout]
  refine htypes.append hothers ?_
  intro c hc hc'
  obtain ⟨t, _, hspan⟩ := List.mem_filterMap.mp hc
  have hext := (Settings.extensionSpan?_eq_some_iff.mp hspan).1
  rw [← (Settings.mem_spans_of_extensionSpan? hspan).2] at hext
  exact of_decide_eq_true (List.mem_filter.mp hc').2 hext

/-- The classes in the document are those of the code if all of them are retained. -/
theorem perm_spansIn_layout_iff (h : o.declarations.Filed) :
    (spansIn (layout s o)).Perm s.spans ↔ ∀ c ∈ s.spans, Retained s o c := by
  constructor
  · intro hperm c hc
    exact (mem_spansIn_layout_iff hc).mp (hperm.mem_iff.mpr hc)
  · intro hall
    rw [List.perm_ext_iff_of_nodup (nodup_spansIn_layout h) s.spaced_spans.nodup]
    intro c
    exact ⟨mem_spans_of_mem_layout, fun hc => (mem_spansIn_layout_iff hc).mpr (hall c hc)⟩

/-! ## Extended classes -/

/-- A type with the name is written as the base of a class with the name, which follows. -/
def WrittenAsBase (s : Settings) (o : Outline) (name : Text) : Prop :=
  ∃ t ∈ o.types, ∃ c ∈ s.spans, t.name = name ∧ c.name = name ∧ ∃ before behind,
    layout s o = before ++ .other (blockText s (baseName name) t) :: .declared c :: behind

theorem writtenAsBase_of_extensionSpan? {t : TypeDeclaration} (ht : t ∈ o.types) {c : ClassSpan}
    (hc : s.extensionSpan? t.name = some c) : WrittenAsBase s o t.name := by
  obtain ⟨ts, us, htypes⟩ := List.append_of_mem ht
  obtain ⟨hmem, hname⟩ := Settings.mem_spans_of_extensionSpan? hc
  have hpieces : typePieces s t =
      [.other (blockText s (baseName t.name) t), .declared c, .other ['\n', '\n']] := by
    unfold typePieces
    rw [hc]
  refine ⟨t, ht, c, hmem, rfl, hname, .other (unlines (preambleLines s.freshIndex)) ::
    .other (unlines (o.declarations.enums.values.flatMap enumBlock)) :: ts.flatMap (typePieces s),
    trimEndPieces (.other ['\n', '\n'] :: (us.flatMap (typePieces s) ++ remainderPieces s)) ++
      [.other ['\n']], ?_⟩
  -- the class stands behind all that belongs to the types before it: the trimming ends there
  have hsplit : ∀ (p q r : List Piece) (a : Piece),
      a :: (p ++ ([.other (blockText s (baseName t.name) t), .declared c,
        .other ['\n', '\n']] ++ q) ++ r) =
        (a :: p ++ [.other (blockText s (baseName t.name) t)]) ++
          .declared c :: (.other ['\n', '\n'] :: (q ++ r)) := by
    intro p q r a
    simp
  unfold layout
  rw [htypes, List.flatMap_append, List.flatMap_cons, hpieces, hsplit,
    trimEndPieces_append_declared]
  simp

theorem mem_events_of_missing {schema : Text} {sink : Sink}
    (ho : Outline.ofText s.dateType schema = .ok o) {name : Text} (h : name ∈ s.index.missing) :
    .extendedClassMissing name ∈ (generate s schema sink).events := by
  unfold generate
  rw [ho]
  refine List.mem_append_left _ (List.mem_append_left _ (List.mem_append_right _ ?_))
  exact List.mem_map_of_mem h

theorem writtenAsBase_or_missing (hall : ∀ c ∈ s.spans, Retained s o c) {name : Text}
    (hname : name ∈ s.extendedNames) : WrittenAsBase s o name ∨ name ∈ s.freshIndex.missing := by
  cases hfind : s.spans.find? (·.name = name) with
  | none =>
    refine .inr (List.mem_filter.mpr ⟨hname, ?_⟩)
    unfold ExtensionIndex.hasClass
    rw [s.class?_freshIndex, hfind]
    rfl
  | some c =>
    have hcname : c.name = name := by simpa using List.find?_some hfind
    obtain ⟨⟨t, ht, htname⟩, _⟩ := hall c (List.mem_of_find?_eq_some hfind) (hcname ▸ hname)
    have hspan : s.extensionSpan? t.name = some c := by
      rw [htname, hcname]
      exact Settings.extensionSpan?_eq_some_iff.mpr ⟨hname, hfind⟩
    have hbase := writtenAsBase_of_extensionSpan? ht hspan
    rw [htname, hcname] at hbase
    exact .inl hbase

/-! ## Documents -/

/-- **When no class is lost**: a document outside a module has every class of the hand-written code
in a place of its own, and every extended class is there behind its base or told to be missing, if
and only if every class whose name is that of an extended class is the first of its name and the
document has a type of this name. -/
theorem all_retained_iff (hs : s.Coherent) (hmodule : s.moduleName = []) {schema : Text}
    {sink : Sink} (hgen : (generate s schema sink).failure = none) :
    ∃ o, Outline.ofText s.dateType schema = .ok o ∧
      (generate s schema sink).output = Text.utf8 (textOf s.handwritten (layout s o)) ∧
      (((spansIn (layout s o)).Perm s.spans ∧
          ∀ name ∈ s.extendedNames, WrittenAsBase s o name ∨
            .extendedClassMissing name ∈ (generate s schema sink).events) ↔
        ∀ c ∈ s.spans, c.name ∈ s.extendedNames →
          (∃ t ∈ o.types, t.name = c.name) ∧ s.spans.find? (·.name = c.name) = some c) := by
  obtain ⟨o, ho, hout⟩ := output_of_failure_eq_none hgen
  have hfiled := Outline.filed_of_ofText ho
  refine ⟨o, ho, ?_, ?_⟩
  · rw [hout, textOf_layout hmodule, hs.index_eq]
  · constructor
    · rintro ⟨hperm, _⟩
      exact (perm_spansIn_layout_iff hfiled).mp hperm
    · intro hall
      refine ⟨(perm_spansIn_layout_iff hfiled).mpr hall, ?_⟩
      intro name hname
      rcases writtenAsBase_or_missing hall hname with hbase | hmissing
      · exact .inl hbase
      · rw [← hs.index_eq] at hmissing
        exact .inr (mem_events_of_missing ho hmissing)

/-! ## A class that is retained and one that is lost -/

/-- A schema of pets. -/
def petSchema : Text :=
  ("\x7b\"type\":\"object\",\"title\":\"Pet\"," : Text) ++
    "\"properties\":\x7b\"a\":\x7b\"type\":\"string\"\x7d\x7d\x7d"

/-- A class that extends the type of the schema, and one that extends none. -/
def petSettings : Settings :=
  { extensionCode := "class Pet extends PetBase \x7b\n\x7d\nclass Tag \x7b\n\x7d\n"
    extendedClasses := some [("Pet" : Text)] }

/-- A class that extends no type of the schema. -/
def ownerSettings : Settings :=
  { extensionCode := "class Owner \x7b\n\x7d\n", extendedClasses := some [("Owner" : Text)] }

set_option maxRecDepth 100000 in
/-- Both classes are in the document, one of them behind its base. -/
theorem pet_retained :
    (generate petSettings petSchema {}).failure = none ∧
      ∃ o, (generate petSettings petSchema {}).output =
          Text.utf8 (textOf petSettings.handwritten (layout petSettings o)) ∧
        (spansIn (layout petSettings o)).Perm petSettings.spans ∧
        petSettings.spans.map ClassSpan.name = [("Pet" : Text), ("Tag" : Text)] ∧
        (WrittenAsBase petSettings o "Pet" ∨
          .extendedClassMissing "Pet" ∈ (generate petSettings petSchema {}).events) := by
  have hspans : petSettings.spans = [⟨"Pet", 0, 27, 28⟩, ⟨"Tag", 30, 41, 42⟩] := by
    cbv
  have hnames : (Outline.ofText .date petSchema).map
      (fun o => o.types.map TypeDeclaration.name) = .ok [("Pet" : Text)] := by
    cbv
  obtain ⟨o', ho', htypes⟩ := exists_of_map_eq_ok hnames
  have hgen : (generate petSettings petSchema {}).failure = none := failure_generate ho' rfl
  obtain ⟨o, ho, hout, hiff⟩ := all_retained_iff (.of_index?_eq_none rfl) rfl hgen
  obtain rfl : o' = o := Except.ok.inj (ho'.symm.trans ho)
  have hpet : ∃ t ∈ o'.types, t.name = ("Pet" : Text) := by
    refine List.mem_map.mp ?_
    rw [htypes]
    exact List.mem_singleton_self _
  obtain ⟨hperm, hext⟩ := hiff.mpr (by
    intro c hc hname
    have hcname : c.name = ("Pet" : Text) := List.mem_singleton.mp hname
    refine ⟨hcname ▸ hpet, ?_⟩
    rw [hspans] at hc ⊢
    simp only [List.mem_cons, List.not_mem_nil, or_false] at hc
    rcases hc with rfl | rfl
    · exact List.find?_cons_of_pos (decide_eq_true rfl)
    · refine absurd hcname ?_
      rw [Text.ofString_eq, Text.ofString_eq]
      decide)
  refine ⟨hgen, o', hout, hperm, ?_, hext _ (List.mem_singleton_self _)⟩
  rw [hspans]
  rfl

set_option maxRecDepth 100000 in
/-- Neither the class nor a base of it is in the document, and there is no warning. -/
theorem owner_lost :
    (generate ownerSettings petSchema {}).failure = none ∧
      ownerSettings.index? = none ∧ ownerSettings.moduleName = [] ∧
      ∃ c ∈ ownerSettings.spans, c.name ∈ ownerSettings.extendedNames ∧
        ∃ out, (generate ownerSettings petSchema {}).output = Text.utf8 out ∧
          ¬c.text ownerSettings.handwritten <:+: out ∧ ¬baseName c.name <:+: out ∧
          ∀ e ∈ (generate ownerSettings petSchema {}).events, e.level ≠ .warn := by
  have hspans : ownerSettings.spans = [⟨"Owner", 0, 13, 14⟩] := by
    cbv
  have hout : (generate ownerSettings petSchema {}).output =
      Text.utf8 (("// Generated by json-schema-ts. Do not edit manually.\n\n" : Text) ++
        "export interface Pet \x7b\n    a?: string;\n\x7d\n") := by
    cbv
  have hwarn : (generate ownerSettings petSchema {}).events.all (·.level ≠ .warn) = true := by
    cbv
  have htext : ClassSpan.text ownerSettings.handwritten ⟨"Owner", 0, 13, 14⟩ =
      "class Owner \x7b\n\x7d".toList := by
    cbv
  refine ⟨by cbv, rfl, rfl, ⟨"Owner", 0, 13, 14⟩, ?_, ?_, _, hout, ?_, ?_, ?_⟩
  · rw [hspans]
    exact List.mem_singleton_self _
  · exact List.mem_singleton_self _
  · rw [htext, Text.ofString_eq, Text.ofString_eq]
    decide +kernel
  · rw [baseName, Text.ofString_eq, Text.ofString_eq, Text.ofString_eq]
    decide +kernel
  · intro e he
    exact of_decide_eq_true (List.all_eq_true.mp hwarn e he)

end SchemaTypes
