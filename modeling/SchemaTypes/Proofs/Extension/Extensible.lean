import Mathlib.Data.List.TakeWhile
import SchemaTypes.Proofs.Extension.Cut
import SchemaTypes.Proofs.Generation.Block
import SchemaTypes.Proofs.Scan.Balanced
import SchemaTypes.Proofs.Scan.Bytes
import SchemaTypes.Proofs.Text.Lines

/-!
# Types that can be extended

A hand-written class extends a generated type if the scan finds it under the name of the type. It
does so exactly if the name is of ASCII: names of types may hold other letters, names in class
headers may not.

* `isName_of_scanClasses`: the names of the classes that a scan finds.
* `IsPlainLine`, `split_of_plain`: code without imports is left whole.
* `extendingClass`: a hand-written class in the place of a type.
* **`extensible_iff`**: what becomes of a code that is just such a class.
-/

namespace SchemaTypes

/-! ## Names of classes -/

theorem isName_of_mem_headersBefore {t : Text} {i : Nat} {h : Header}
    (hh : h ∈ headersBefore t i) : IsName h.name := by
  induction i with
  | zero => exact absurd hh List.not_mem_nil
  | succ i ih =>
    rw [headersBefore] at hh
    split at hh
    · exact ih hh
    · next name hname =>
      split_ifs at hh
      · rcases List.mem_append.mp hh with hh | hh
        · exact ih hh
        · obtain ⟨_, _, _, _, _, _, _, _, _, _, _, _, hisName, _⟩ :=
            classHeader?_eq_some_iff.mp hname
          rw [List.mem_singleton.mp hh]
          exact hisName
      · exact ih hh

/-- **The classes that a scan finds** have the names that class headers may have. -/
theorem isName_of_scanClasses {t : Text} {spans : List ClassSpan} (h : scanClasses t = .ok spans) :
    ∀ c ∈ spans, IsName c.name := by
  intro c hc
  obtain ⟨x, hx, hspan⟩ := exists_header_of_scanClasses h c hc
  obtain ⟨_, _, _, _, heq⟩ := Header.bodyBrace_of_span? hspan
  rw [heq]
  exact isName_of_mem_headersBefore hx

theorem isAscii_of_hasClass {code : Text} {extended : List Text} {name : Text}
    (h : (ExtensionIndex.ofCode code extended).hasClass name = true) : name.IsAscii := by
  obtain ⟨c, hc, rfl⟩ := (ExtensionIndex.hasClass_ofCode_iff code extended name).mp h
  unfold ExtensionIndex.spansOf at hc
  split at hc
  · next hscan => exact (isName_of_scanClasses hscan c hc).isAscii
  · exact absurd hc List.not_mem_nil

/-! ## Code without imports -/

/-- The line is no reference, and no import statement begins with it. -/
def IsPlainLine (line : Text) : Prop :=
  isReference (Text.trim line) = false ∧ startsImport (Text.trim line) = false

theorem Text.trim_append_newline (t : Text) : Text.trim (t ++ ['\n']) = Text.trim t := by
  have hblank : Text.trimEnd ['\n'] = [] := by decide
  unfold Text.trim
  by_cases h : Text.trimStart t = []
  · rw [trimStart_append_of_eq_nil h, h]
    decide
  · rw [trimStart_append_of_ne_nil h, trimEnd_append_of_eq_nil hblank]

theorem isPlainLine_append_newline {line : Text} :
    IsPlainLine (line ++ ['\n']) ↔ IsPlainLine line := by
  unfold IsPlainLine
  rw [Text.trim_append_newline]

theorem isPlainLine_nil : IsPlainLine [] := by
  simp [IsPlainLine, isReference, startsImport, Text.trim, Text.trimStart, Text.trimEnd,
    Text.startsWith, Text.ofString_eq]

theorem startsWith_trim_eq_false {c : Char} {r word : Text} (hblank : Text.isBlank c = false)
    {d : Char} (hword : word.head? = some d) (hd : c ≠ d) :
    (Text.trim (c :: r)).startsWith word = false := by
  have htrim : Text.trim (c :: r) <+: c :: r := by
    unfold Text.trim Text.trimStart
    rw [List.dropWhile_cons_of_neg (by simp [hblank])]
    exact Text.trimEnd_isPrefix (c :: r)
  rw [Bool.eq_false_iff]
  intro h
  obtain ⟨rest, hrest⟩ := (List.isPrefixOf_iff_prefix.mp h).trans htrim
  have hhead := congrArg List.head? hrest
  rw [List.head?_append, hword, Option.some_or, List.head?_cons, Option.some.injEq] at hhead
  exact hd hhead.symm

theorem isPlainLine_cons {c : Char} {r : Text} (hblank : Text.isBlank c = false) (hs : c ≠ '/')
    (hi : c ≠ 'i') : IsPlainLine (c :: r) := by
  refine ⟨startsWith_trim_eq_false hblank (d := '/') (by rw [Text.ofString_eq]; rfl) hs,
    Bool.or_eq_false_iff.mpr ⟨?_, ?_⟩⟩
  · exact startsWith_trim_eq_false hblank (d := 'i') (by rw [Text.ofString_eq]; rfl) hi
  · exact startsWith_trim_eq_false hblank (d := 'i') (by rw [Text.ofString_eq]; rfl) hi

theorem isPlainLine_of_mem_append {t r : Text} (ht : ∀ l ∈ Text.inclusiveLines t, IsPlainLine l)
    (hr : ∀ l ∈ Text.inclusiveLines r, IsPlainLine l) :
    ∀ l ∈ Text.inclusiveLines (t ++ '\n' :: r), IsPlainLine l := by
  induction t using Text.lines_induction with
  | single l hl =>
    rw [Text.inclusiveLines_append_newline hl]
    refine List.forall_mem_cons.mpr ⟨isPlainLine_append_newline.mpr ?_, hr⟩
    by_cases hne : l = []
    · rw [hne]
      exact isPlainLine_nil
    · rw [Text.inclusiveLines_of_no_newline hl hne] at ht
      exact ht l (List.mem_singleton_self l)
  | cons l t hl ih =>
    rw [Text.inclusiveLines_append_newline hl] at ht
    obtain ⟨hline, ht⟩ := List.forall_mem_cons.mp ht
    rw [List.append_assoc, List.cons_append, Text.inclusiveLines_append_newline hl]
    exact List.forall_mem_cons.mpr ⟨hline, ih ht⟩

theorem ofLines_of_plain {lines : List Text} (h : ∀ l ∈ lines, IsPlainLine l) :
    ImportSplit.ofLines [] lines = ⟨[], lines.flatten⟩ := by
  induction lines with
  | nil => rfl
  | cons line rest ih =>
    obtain ⟨⟨hreference, himport⟩, hrest⟩ := List.forall_mem_cons.mp h
    rw [ImportSplit.ofLines, ih hrest]
    dsimp only
    rw [hreference, himport]
    rfl

/-- **Code without imports and carriage returns** is left whole. -/
theorem split_of_plain {code : Text} (hreturn : '\r' ∉ code)
    (h : ∀ l ∈ Text.inclusiveLines code, IsPlainLine l) :
    ExtensionIndex.split code = ⟨[], code⟩ := by
  have hfilter : code.filter (· ≠ '\r') = code :=
    List.filter_eq_self.mpr fun c hc => decide_eq_true fun e => hreturn (e ▸ hc)
  unfold ExtensionIndex.split ImportSplit.ofCode
  rw [hfilter, ofLines_of_plain h, Text.flatten_inclusiveLines]

/-! ## A class in the place of a type -/

/-- The hand-written class with some name, in the form in which it extends a generated type. -/
def extendingClass (name body : Text) : Text :=
  "export class " ++ name ++ " extends " ++ baseName name ++ " \x7b\n" ++ body ++ "\n\x7d"

/-- What stands in front of the braces of the class. -/
def extendingHeader (name : Text) : Text :=
  blockHeader "class" name ++ "extends " ++ baseName name ++ " "

theorem extendingClass_eq (name body : Text) :
    extendingClass name body =
      extendingHeader name ++ '\x7b' :: ('\n' :: (body ++ ['\n'])) ++ ['\x7d'] := by
  unfold extendingClass extendingHeader blockHeader
  simp [Text.ofString_eq]

variable {name body : Text}

theorem NameText.baseName (h : NameText name) : NameText (baseName name) := by
  unfold SchemaTypes.baseName
  rw [Text.ofString_eq]
  exact h.append (by decide)

theorem headerText_extendingHeader (h : NameText name) : HeaderText (extendingHeader name) := by
  have hextends : Inert ("extends " : Text) ∧ '\n' ∉ ("extends " : Text) := by
    rw [Text.ofString_eq]
    decide
  have hspace : Inert (" " : Text) ∧ '\n' ∉ (" " : Text) := by
    rw [Text.ofString_eq]
    decide
  have hclass : NameText ("class" : Text) := by
    rw [Text.ofString_eq]
    decide
  exact ((((headerText_blockHeader hclass h).append hextends.1 hextends.2).append
    h.baseName.inert h.baseName.no_newline).append hspace.1 hspace.2)

theorem split_extendingClass (hname : NameText name) (hreturn : '\r' ∉ body)
    (hbody : ∀ l ∈ Text.inclusiveLines body, IsPlainLine l) :
    ExtensionIndex.split (extendingClass name body) = ⟨[], extendingClass name body⟩ := by
  have hheader := headerText_extendingHeader hname
  have hno : '\r' ∉ name := fun h => absurd (hname '\r' h (by decide)) (by decide)
  refine split_of_plain ?_ ?_
  · rw [extendingClass_eq]
    simp [extendingHeader, blockHeader, baseName, hno, hreturn, Text.ofString_eq]
  · have hfirst : '\n' ∉ extendingHeader name ++ ['\x7b'] := by
      rw [List.mem_append, not_or]
      exact ⟨hheader.line, by decide⟩
    have heq : extendingClass name body =
        (extendingHeader name ++ ['\x7b']) ++ '\n' :: (body ++ '\n' :: ['\x7d']) := by
      simp [extendingClass_eq]
    rw [heq, Text.inclusiveLines_append_newline hfirst]
    refine List.forall_mem_cons.mpr ⟨?_, isPlainLine_of_mem_append hbody ?_⟩
    · obtain ⟨r, hr⟩ : ∃ r, extendingHeader name = 'e' :: r := by
        unfold extendingHeader blockHeader
        rw [Text.ofString_eq "export "]
        exact ⟨_, rfl⟩
      rw [hr]
      exact isPlainLine_cons (by decide) (by decide) (by decide)
    · exact List.forall_mem_singleton.mpr (isPlainLine_cons (by decide) (by decide) (by decide))

/-- **The class is found** under a name that class headers may have. -/
theorem scanClasses_extendingClass (hname : NameText name) (hisName : IsName name)
    (hbody : body.Balanced) :
    scanClasses (extendingClass name body) =
      .ok [⟨name, 0, (extendingHeader name).length + 1,
        (extendingHeader name).length + 1 + (body.length + 2)⟩] := by
  have hinner : Neutral ('\n' :: (body ++ ['\n'])) := neutral_newline.append hbody.neutral
  have hclass : ∀ rest, classHeader? (extendingHeader name ++ '\x7b' :: rest) = some name := by
    intro rest
    unfold extendingHeader
    rw [List.append_assoc, List.append_assoc, List.append_assoc]
    exact classHeader?_class hisName _
  have hscan := scanFrom_class (headerText_extendingHeader hname) hinner hclass 0 []
  rw [List.append_nil, ← extendingClass_eq] at hscan
  unfold scanClasses
  rw [hscan]
  simp [scanFrom, Except.map, ScanState.within]

/-! ## Extended types -/

namespace ExtensionIndex

theorem isExtended_iff {index : ExtensionIndex} {name : Text} :
    index.isExtended name = true ↔ name ∈ index.extended ∧ index.hasClass name = true := by
  unfold isExtended extension? hasClass
  split_ifs with h
  · exact ⟨fun hclass => ⟨h, hclass⟩, And.right⟩
  · exact ⟨nofun, fun hclass => absurd hclass.1 h⟩

/-- **The index of the class alone**, under a name that class headers may have. -/
theorem ofCode_extendingClass (hname : NameText name) (hisName : IsName name)
    (hreturn : '\r' ∉ body) (hplain : ∀ l ∈ Text.inclusiveLines body, IsPlainLine l)
    (hbody : body.Balanced) :
    ofCode (extendingClass name body) [name] =
      { importCode := []
        remainingCode := []
        classes := [⟨name, Text.trim (extendingClass name body), '\n' :: (body ++ ['\n'])⟩]
        extended := [name] } := by
  have hlength : (extendingClass name body).length =
      (extendingHeader name).length + 1 + (body.length + 2) + 1 := by
    simp only [extendingClass_eq, List.length_append, List.length_cons, List.length_nil]
    omega
  have hwhole : (extendingClass name body).slice 0 ((extendingHeader name).length + 1 +
      (body.length + 2) + 1) = extendingClass name body := by
    rw [← hlength]
    exact List.take_length
  have hinner : (extendingClass name body).slice ((extendingHeader name).length + 1)
      ((extendingHeader name).length + 1 + (body.length + 2)) = '\n' :: (body ++ ['\n']) := by
    have hdrop : (extendingClass name body).drop ((extendingHeader name).length + 1) =
        ('\n' :: (body ++ ['\n'])) ++ ['\x7d'] := by
      rw [extendingClass_eq, List.append_assoc, ← List.drop_drop, List.drop_left]
      rfl
    unfold Text.slice
    rw [hdrop, Nat.add_sub_cancel_left]
    exact List.take_left' (by simp)
  unfold ofCode spansOf
  rw [split_extendingClass hname hreturn hplain]
  dsimp only
  rw [scanClasses_extendingClass hname hisName hbody]
  unfold without without
  rw [List.map_singleton, classAt]
  dsimp only [ClassSpan.stop]
  rw [hwhole, hinner, if_pos (List.mem_singleton_self name), ← hlength, List.drop_length]
  rfl

end ExtensionIndex

open ExtensionIndex in
/-- **What becomes of a code that is just a class in the place of a type**, whatever text the name
of the type is made from and whatever balanced text stands in the class. The type is extended, the
body is the text and nothing else is left exactly if the name is of ASCII; otherwise the code
declares no class of the name. -/
theorem extensible_iff {s body : Text} (hname : typeName s ≠ []) (hreturn : '\r' ∉ body)
    (hplain : ∀ l ∈ Text.inclusiveLines body, IsPlainLine l) (hbalanced : body.Balanced) :
    let index := ofCode (extendingClass (typeName s) body) [typeName s]
    ((index.isExtended (typeName s) = true ∧
        (index.class? (typeName s)).map HandwrittenClass.body = some ('\n' :: (body ++ ['\n'])) ∧
        index.remainingCode = []) ↔ (typeName s).IsAscii) ∧
      (¬(typeName s).IsAscii → index.missing = [typeName s]) := by
  intro index
  have htype := TypeName.of_ne_nil hname
  refine ⟨⟨?_, ?_⟩, ?_⟩
  · rintro ⟨hextended, -, -⟩
    exact isAscii_of_hasClass (isExtended_iff.mp hextended).2
  · intro hascii
    have hisName : IsName (typeName s) := htype.isName fun c hc => by
      simpa [Text.isHigh] using hascii c hc
    have hindex : index = _ :=
      ofCode_extendingClass htype.characters hisName hreturn hplain hbalanced
    rw [hindex]
    simp [isExtended, extension?, class?]
  · intro hascii
    refine List.filter_eq_self.mpr fun name hmem => ?_
    rw [List.mem_singleton.mp hmem, Bool.not_eq_true', Bool.eq_false_iff]
    exact fun hclass => hascii (isAscii_of_hasClass hclass)

/-- A method with braces in its text and in a comment. -/
def petBody : Text := "eat() \x7b say('\x7d'); \x7d // \x7b"

set_option maxRecDepth 100000 in
theorem balanced_petBody : petBody.Balanced := by
  have hmarks : plainMarks petBody = List.replicate 12 true ++
      (List.replicate 3 false ++ (List.replicate 5 true ++ List.replicate 4 false)) := by
    cbv
  refine ⟨⟨by cbv, by cbv⟩, ?_, by cbv⟩
  simp only [depthAt, plainCount, PlainAt, hmarks]
  decide +kernel

theorem plain_petBody : ∀ l ∈ Text.inclusiveLines petBody, IsPlainLine l := by
  have hline : petBody = 'e' :: petBody.tail := by
    cbv
  have hlines : Text.inclusiveLines petBody = [petBody] := by
    cbv
  rw [hlines, hline]
  exact List.forall_mem_singleton.mpr (isPlainLine_cons (by decide) (by decide) (by decide))

set_option maxRecDepth 100000 in
open ExtensionIndex in
/-- A pet can be extended. -/
theorem pet_extended :
    typeName "pet" ≠ [] ∧ '\r' ∉ petBody ∧
      (∀ l ∈ Text.inclusiveLines petBody, IsPlainLine l) ∧ petBody.Balanced ∧
      let index := ofCode (extendingClass (typeName "pet") petBody) [typeName "pet"]
      index.isExtended (typeName "pet") = true ∧
        (index.class? (typeName "pet")).map HandwrittenClass.body =
          some ('\n' :: (petBody ++ ['\n'])) ∧
        index.remainingCode = [] := by
  have hname : typeName "pet" = ("Pet" : Text) := by
    cbv
  rw [Text.ofString_eq "Pet"] at hname
  have hne : typeName "pet" ≠ [] := by
    rw [hname]
    decide
  have hreturn : '\r' ∉ petBody := by
    unfold petBody
    rw [Text.ofString_eq]
    decide
  have hascii : (typeName "pet").IsAscii := by
    rw [hname]
    simp [Text.IsAscii, Text.isHigh]
  exact ⟨hne, hreturn, plain_petBody, balanced_petBody,
    (extensible_iff hne hreturn plain_petBody balanced_petBody).1.mpr hascii⟩

set_option maxRecDepth 100000 in
open ExtensionIndex in
/-- A street cannot. -/
theorem street_not_extended :
    typeName "straße" = "Straße" ∧ Text.Balanced [] ∧
      let code := extendingClass "Straße" []
      let index := ofCode code ["Straße"]
      code = "export class Straße extends StraßeBase \x7b\n\n\x7d" ∧
        index.isExtended "Straße" = false ∧ index.missing = ["Straße"] ∧
        index.class? "Straße" = none ∧ index.remainingCode = code := by
  exact ⟨by cbv, Text.balanced_nil, by cbv, by cbv, by cbv, by cbv, by cbv⟩

end SchemaTypes
