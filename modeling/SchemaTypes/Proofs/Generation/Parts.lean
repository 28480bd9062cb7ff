import SchemaTypes.Proofs.Generation.Distinct
import SchemaTypes.Proofs.Generation.Layout
import SchemaTypes.Proofs.Generation.Module

/-!
# Documents in parts

The body of a document is a row of parts with an empty line between neighbours: one part for every
definition, and one for what is left of the hand-written code. No part ends in a blank, so nothing
is lost when the blanks at the end of the body are cut off.

* `map_intercalate`, `filterMap_intercalate`: what is done to a row of parts.
* `EndsSolid`: the last of some lines does not end in a blank.
* `solidParts`, `bodyParts`: the parts, as they are put together and line by line.
* **`lines_body`**: the lines of a body are those of its parts.
* `Settings.placeLine`: a line of a body as it stands in a document.
* **`documentText_eq_parts`**: a document is what stands before the parts, the parts as they are
  placed, and what stands behind them.
-/

namespace SchemaTypes

open Text (LineSafe IsLine)

/-! ## Rows of parts -/

section Rows

variable {α β : Type} (separator : List α) (parts : List (List α))

theorem intercalate_cons (p : List α) :
    separator.intercalate (p :: parts) = p ++ parts.flatMap (separator ++ ·) := by
  induction parts generalizing p with
  | nil => simp
  | cons q parts ih =>
    rw [List.intercalate_cons_cons, ih, List.flatMap_cons, List.append_assoc, List.append_assoc]

theorem intercalate_concat {parts : List (List α)} (hne : parts ≠ []) (p : List α) :
    separator.intercalate (parts ++ [p]) = separator.intercalate parts ++ separator ++ p := by
  obtain ⟨q, parts, rfl⟩ := List.exists_cons_of_ne_nil hne
  rw [List.cons_append, intercalate_cons, intercalate_cons]
  simp

theorem map_intercalate (f : α → β) :
    (separator.intercalate parts).map f =
      (separator.map f).intercalate (parts.map (List.map f)) := by
  cases parts with
  | nil => rfl
  | cons p parts =>
    rw [List.map_cons, intercalate_cons, intercalate_cons]
    simp [List.map_flatMap, List.flatMap_map]

theorem flatMap_intercalate (f : α → List β) :
    (separator.intercalate parts).flatMap f =
      (separator.flatMap f).intercalate (parts.map (List.flatMap f)) := by
  cases parts with
  | nil => rfl
  | cons p parts =>
    rw [List.map_cons, intercalate_cons, intercalate_cons]
    simp [List.flatMap_assoc, List.flatMap_map]

theorem filterMap_intercalate (f : α → Option β) (h : separator.filterMap f = []) :
    (separator.intercalate parts).filterMap f = parts.flatMap (List.filterMap f) := by
  cases parts with
  | nil => rfl
  | cons p parts =>
    rw [intercalate_cons]
    simp [List.filterMap_flatMap, h]

variable {separator parts} in
theorem mem_or_mem_of_mem_intercalate {a : α} (h : a ∈ separator.intercalate parts) :
    a ∈ separator ∨ ∃ p ∈ parts, a ∈ p := by
  cases parts with
  | nil => exact absurd h List.not_mem_nil
  | cons p parts =>
    rw [intercalate_cons, List.mem_append, List.mem_flatMap] at h
    rcases h with h | ⟨q, hq, h⟩
    · exact .inr ⟨p, List.mem_cons_self, h⟩
    · exact (List.mem_append.mp h).imp_right fun h => ⟨q, List.mem_cons_of_mem p hq, h⟩

/-- Parts that each have a separator behind them have it between neighbours and at the end. -/
theorem flatMap_append_eq_intercalate {parts : List (List α)} (hne : parts ≠ []) :
    parts.flatMap (· ++ separator) = separator.intercalate parts ++ separator := by
  induction parts with
  | nil => exact absurd rfl hne
  | cons p parts ih =>
    cases parts with
    | nil => simp
    | cons q parts =>
      rw [List.flatMap_cons, ih (List.cons_ne_nil q parts), List.intercalate_cons_cons]
      simp

end Rows

/-! ## Lines that end in no blank -/

/-- The last of the lines does not end in a blank and is not empty. -/
def EndsSolid (ls : List Text) : Prop :=
  ∃ before l, ls = before ++ [l] ∧ l ≠ [] ∧ Text.trimEnd l = l

namespace EndsSolid

variable {ls ms : List Text}

theorem append_left (ls : List Text) (h : EndsSolid ms) : EndsSolid (ls ++ ms) := by
  obtain ⟨before, l, rfl, hl⟩ := h
  exact ⟨ls ++ before, l, (List.append_assoc ..).symm, hl⟩

theorem intercalate (separator : List Text) {parts : List (List Text)} (hne : parts ≠ [])
    (h : ∀ p ∈ parts, EndsSolid p) : EndsSolid (separator.intercalate parts) := by
  induction parts with
  | nil => exact absurd rfl hne
  | cons p parts ih =>
    obtain ⟨hp, hparts⟩ := List.forall_mem_cons.mp h
    cases parts with
    | nil => simpa using hp
    | cons q parts =>
      rw [List.intercalate_cons_cons]
      exact (ih (List.cons_ne_nil q parts) hparts).append_left _

theorem trimEnd_unlines (h : EndsSolid ls) {blanks : Text} (hblanks : Text.trimEnd blanks = []) :
    Text.trimEnd (unlines ls ++ blanks) ++ ['\n'] = unlines ls := by
  obtain ⟨before, l, rfl, hne, hl⟩ := h
  have hend : Text.trimEnd ('\n' :: blanks) = [] := by
    show Text.trimEnd (['\n'] ++ blanks) = []
    rw [Text.trimEnd_append_of_eq_nil hblanks]
    decide
  have hlast : unlines (before ++ [l]) ++ blanks = unlines before ++ (l ++ '\n' :: blanks) := by
    simp
  rw [hlast, Text.trimEnd_append_of_ne_nil, Text.trimEnd_append_of_eq_nil hend, hl]
  · simp
  · rwa [Text.trimEnd_append_of_eq_nil hend, hl]

end EndsSolid

/-! ## Parts of a body -/

/-- The lines of a definition but the empty one at their end. -/
def Definition.solidLines (s : Settings) (w : Definition) : List Text :=
  (w.lines s).dropLast

/-- The lines of the definitions, and what is left of the hand-written code. Of hand-written code
many lines are together. -/
def solidParts (s : Settings) (o : Outline) : List (List Text) :=
  o.definitions.map (Definition.solidLines s) ++ (remainderLines s.index).map fun l => [l]

/-- The parts of a body, line by line. -/
def bodyParts (s : Settings) (o : Outline) : List (List Text) :=
  (solidParts s o).map fun p => Text.lines (unlines p)

/-- An empty line ends the lines, and what is before it does not end in a blank. -/
def EndsEmpty (ls : List Text) : Prop :=
  ∃ front, ls = front ++ [[]] ∧ EndsSolid front

theorem endsEmpty_closingLines (ls : List Text) : EndsEmpty (ls ++ closingLines) := by
  refine ⟨ls ++ [("\x7d" : Text)], by simp [closingLines], ls, _, rfl, ?_, ?_⟩ <;>
  · rw [Text.ofString_eq]
    decide

theorem Solid.endsEmpty {t : Text} (h : Solid t) (ls : List Text) : EndsEmpty (ls ++ [t, []]) :=
  ⟨ls ++ [t], by simp, ls, t, rfl, h.nonempty, h.trimEnd⟩

section Parts

variable {s : Settings} {o : Outline}

/-- **A definition ends in an empty line**, and what is before it does not end in a blank. -/
theorem Definition.endsEmpty_lines (hs : s.Coherent) (w : Definition) : EndsEmpty (w.lines s) := by
  cases w with
  | enum e => exact endsEmpty_closingLines _
  | type t =>
    have hspan := s.extension?_freshIndex t.name
    unfold lines
    dsimp only
    rw [hs.index_eq, hspan]
    cases hc : s.extensionSpan? t.name with
    | none =>
      rw [Option.map_none, Option.toList_none, List.flatMap_nil, List.append_nil]
      exact endsEmpty_closingLines _
    | some c =>
      rw [Option.map_some, Option.toList_some, List.flatMap_singleton]
      exact (Settings.solid_text (Settings.mem_spans_of_extensionSpan? hc).1).endsEmpty _

theorem Definition.lines_eq_solidLines (hs : s.Coherent) (w : Definition) :
    w.lines s = w.solidLines s ++ [[]] ∧ EndsSolid (w.solidLines s) := by
  obtain ⟨front, hfront, hsolid⟩ := w.endsEmpty_lines hs
  have : w.solidLines s = front := by rw [solidLines, hfront, List.dropLast_concat]
  exact ⟨this ▸ hfront, this ▸ hsolid⟩

theorem Outline.definitions_ne_nil {schema : Text}
    (ho : Outline.ofText s.dateType schema = .ok o) : o.definitions ≠ [] := by
  obtain ⟨_, _, _, _, htypes⟩ := Outline.exists_schema_of_ofText ho
  have hlength := (Outline.perm_types (Outline.filed_of_ofText ho)).length_eq
  intro hnil
  have : o.types = [] := List.map_eq_nil_iff.mp (List.append_eq_nil_iff.mp hnil).2
  rw [this] at hlength
  have hvalues := List.length_eq_zero_iff.mp hlength.symm
  have : o.declarations.types = [] := List.map_eq_nil_iff.mp hvalues
  rw [this] at htypes
  exact absurd htypes nofun

theorem endsSolid_remainderLines (hs : s.Coherent) :
    ∀ l ∈ remainderLines s.index, EndsSolid [l] := by
  intro l hl
  unfold remainderLines at hl
  split_ifs at hl with hempty
  · exact absurd hl List.not_mem_nil
  · obtain rfl := List.mem_singleton.mp hl
    refine ⟨[], _, rfl, by simpa using hempty, ?_⟩
    rw [hs.index_eq]
    exact Text.trimEnd_trimEnd _

theorem map_solidLines_ne_nil (hne : o.definitions ≠ []) :
    o.definitions.map (Definition.solidLines s) ≠ [] := by
  simpa using hne

theorem endsSolid_solidParts (hs : s.Coherent) (hne : o.definitions ≠ []) :
    EndsSolid ([[]].intercalate (solidParts s o)) := by
  refine .intercalate [[]] (List.append_ne_nil_of_left_ne_nil (map_solidLines_ne_nil hne) _) ?_
  intro p hp
  rcases List.mem_append.mp hp with hp | hp
  · obtain ⟨w, _, rfl⟩ := List.mem_map.mp hp
    exact (w.lines_eq_solidLines hs).2
  · obtain ⟨l, hl, rfl⟩ := List.mem_map.mp hp
    exact endsSolid_remainderLines hs l hl

/-- **A body is its parts** with empty lines between them. -/
theorem body_append_newline (hs : s.Coherent) (hne : o.definitions ≠ []) :
    body s s.index o ++ ['\n'] = unlines ([[]].intercalate (solidParts s o)) := by
  have hdefinitions : o.definitions.flatMap (Definition.lines s) =
      [[]].intercalate (o.definitions.map (Definition.solidLines s)) ++ [[]] := by
    rw [← flatMap_append_eq_intercalate _ (map_solidLines_ne_nil hne), List.flatMap_map]
    exact List.flatMap_congr fun w _ => (w.lines_eq_solidLines hs).1
  have hsolid := endsSolid_solidParts hs hne
  rw [Outline.body_eq_definitions, hdefinitions]
  -- the empty line behind the definitions is one at the end only if nothing is behind it
  by_cases hempty : s.index.remainingCode.isEmpty = true
  · have hrest : remainderLines s.index = [] := if_pos hempty
    rw [solidParts, hrest, List.map_nil, List.append_nil] at hsolid ⊢
    rw [List.append_nil, unlines_append]
    exact hsolid.trimEnd_unlines (by decide)
  · have hrest : remainderLines s.index = [s.index.remainingCode] := if_neg hempty
    have hparts : [[]].intercalate (solidParts s o) =
        [[]].intercalate (o.definitions.map (Definition.solidLines s)) ++ [[]] ++
          [s.index.remainingCode] := by
      rw [solidParts, hrest, List.map_singleton, intercalate_concat _ (map_solidLines_ne_nil hne)]
    rw [hrest, ← hparts]
    simpa using hsolid.trimEnd_unlines (show Text.trimEnd [] = [] from rfl)

/-! ## Line by line -/

/-- **Parts that are put together** can be cut into lines one by one. -/
theorem lines_unlines_intercalate (parts : List (List Text)) :
    Text.lines (unlines ([[]].intercalate parts)) =
      [[]].intercalate (parts.map fun p => Text.lines (unlines p)) := by
  have hempty : [[]].flatMap (fun l => Text.lines (l ++ ['\n'])) = [[]] := by decide
  simp only [Text.lines_unlines_eq_flatMap]
  rw [flatMap_intercalate, hempty]

/-- **The lines of a body** are those of its parts, with empty lines between them. -/
theorem lines_body (hs : s.Coherent) (hne : o.definitions ≠ []) :
    Text.lines (body s s.index o) = [[]].intercalate (bodyParts s o) ∧
      body s s.index o ≠ [] := by
  have hbody := body_append_newline hs hne
  have hnonempty : body s s.index o ≠ [] := by
    intro hnil
    obtain ⟨before, l, hsolid, hl, _⟩ := endsSolid_solidParts hs hne
    have hline : unlines [l] = l ++ ['\n'] := by simp
    rw [hnil, hsolid, unlines_append, hline, ← List.append_assoc] at hbody
    exact hl (List.append_eq_nil_iff.mp (List.append_cancel_right hbody).symm).2
  refine ⟨?_, hnonempty⟩
  have hlast := List.getLast?_eq_some_getLast hnonempty
  have hblank := Text.isBlank_getLast?_trimEnd hlast
  rw [← Text.lines_append_newline hlast (fun h => absurd (h ▸ hblank) (by decide))
    (fun h => absurd (h ▸ hblank) (by decide)), hbody, lines_unlines_intercalate]
  rfl

end Parts

/-! ## Documents -/

namespace Settings

/-- A line of a body as it stands in a document: moved to the right inside a module. -/
def placeLine (s : Settings) (l : Text) : Text :=
  if s.moduleName = [] then l else moduleLine l

/-- The line that opens the module, if there is one. -/
def openingLines (s : Settings) : List Text :=
  if s.moduleName = [] then [] else ["module " ++ s.moduleName ++ " \x7b"]

/-- The line that closes the module, if there is one. -/
def closingLines (s : Settings) : List Text :=
  if s.moduleName = [] then [] else [("\x7d" : Text)]

end Settings

/-- A text is made of its lines if no carriage return in it goes with a line feed. -/
theorem unlines_lines {t : Text} (h : LineSafe t) (hlast : t.getLast? ≠ some '\n') (hne : t ≠ []) :
    unlines (Text.lines t) = t ++ ['\n'] := by
  have hjoin : Text.join ['\n'] (Text.lines t) = t := Text.join_lines h hlast
  calc unlines (Text.lines t)
      = Text.join ['\n'] (Text.lines t) ++ ['\n'] :=
        flatMap_append_eq_intercalate ['\n'] (Text.lines_ne_nil hne)
    _ = t ++ ['\n'] := by rw [hjoin]

/-- **A document in parts**: the header and the imports, and the parts of the body with empty lines
between them, inside the module if there is one. -/
theorem documentText_eq_parts {s : Settings} (hs : s.Coherent) {schema : Text} {o : Outline}
    (ho : Outline.ofText s.dateType schema = .ok o) :
    documentText s s.index o =
      unlines (preambleLines s.index ++ s.openingLines ++
        ([[]].intercalate (bodyParts s o)).map s.placeLine ++ s.closingLines) := by
  obtain ⟨hlines, hbody⟩ := lines_body hs (Outline.definitions_ne_nil ho)
  have hlast : (body s s.index o).getLast? ≠ some '\n' := fun hl =>
    absurd (Text.isBlank_getLast?_trimEnd hl) (by decide)
  rw [← hlines]
  unfold documentText document moduleLines Settings.openingLines Settings.closingLines
    Settings.placeLine
  by_cases hname : s.moduleName = []
  · have hunlines := unlines_lines (lineSafe_body hs ho) hlast hbody
    simp only [hname, List.isEmpty_nil, if_true, List.append_nil, List.map_id', unlines_append,
      hunlines, unlines_cons, unlines_nil]
  · have hempty : s.moduleName.isEmpty = false := by simpa using hname
    simp only [hname, hempty, if_false, Bool.false_eq_true, List.append_assoc,
      List.cons_append, List.nil_append]

end SchemaTypes
