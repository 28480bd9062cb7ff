import SchemaTypes.Proofs.Declaration.Sound
import SchemaTypes.Proofs.Generation.Output
import SchemaTypes.Proofs.Text.Lines

/-!
# Lines of a document

A document can be cut into its lines without loss: what is written of a schema has no controls in
it but in the descriptions, which come line by line, and the hand-written code is taken without its
carriage returns.

* `noControl_memberLine`: the line of a property.
* `lineSafe_docComment`: the lines of a comment.
* `no_return_split`: hand-written code has no carriage returns.
* **`lineSafe_body`**: no carriage return in a body goes with a line feed.
-/

namespace SchemaTypes

open Text (LineSafe IsLine)

/-! ## Lines of properties -/

theorem NoControl.lineSafe {t : Text} (h : NoControl t) : LineSafe t :=
  .of_not_mem fun hr => absurd (h '\r' hr) (by decide)

theorem noControl_indentation : NoControl indentation :=
  .of_string (by decide)

theorem noControl_propertyName (key : Text) : NoControl (propertyName key) := by
  unfold propertyName
  split
  · next h =>
    exact fun c hc => le_toNat_of_class (p := isIdentifierPart) (by decide) fun _ =>
      isIdentifierPart_of_mem h hc
  · exact Json.noControl_stringLiteral key

theorem Property.ControlFree.noControl_memberTail {p : Property} (h : p.ControlFree)
    (ht : p.type.NamesSound) (style : Style) : NoControl (memberTail p style) := by
  have hargument : NoControl (argument p) := by
    unfold argument
    split
    · exact .nil
    · next i hi => exact h i hi
  cases style with
  | interface =>
    refine .append (.append ?_ (.of_string (by decide))) ht.noControl_text
    split <;> decide
  | plainClass =>
    refine .append (.append (.append ?_ (.of_string (by decide))) ht.noControl_text) ?_
    · unfold presenceMark
      split_ifs <;> decide
    · unfold assignment
      split
      · exact .nil
      · next i hi => exact .append (.of_string (by decide)) (h i hi)
  | observableClass =>
    refine .append (.of_string (by decide)) ?_
    unfold observableCall
    split
    · next element e =>
      rw [e] at ht
      have he : element.NamesSound := ht
      exact .append (.append (.append (.append (.of_string (by decide)) he.noControl_text)
        (.of_string (by decide))) hargument) (.of_string (by decide))
    · exact .append (.append (.append (.append (.of_string (by decide)) ht.noControl_text)
        (.of_string (by decide))) hargument) (.of_string (by decide))

/-- **No control is in the line of a property.** -/
theorem noControl_memberLine {p : Property} (hp : p.Sound) (h : p.ControlFree) (style : Style)
    (keywords : Bool) : NoControl (memberLine style keywords p) := by
  unfold memberLine readOnlyMark
  refine .append (.append (.append (.append noControl_indentation ?_)
    (noControl_propertyName p.key)) (h.noControl_memberTail hp.type style)) (.of_string (by decide))
  split
  · exact .of_string (by decide)
  · exact .nil

/-! ## Lines of comments -/

theorem mem_replaceAll {a b c : Char} {image t : Text} (h : c ∈ Text.replaceAll a b image t) :
    c ∈ image ∨ c ∈ t := by
  fun_induction Text.replaceAll a b image t with
  | case1 => exact .inr h
  | case2 d => exact .inr h
  | case3 d e r _ ih =>
    rcases List.mem_append.mp h with h | h
    · exact .inl h
    · exact (ih h).imp_right fun h => List.mem_cons_of_mem _ (List.mem_cons_of_mem _ h)
  | case4 d e r _ ih =>
    rcases List.mem_cons.mp h with rfl | h
    · exact .inr List.mem_cons_self
    · exact (ih h).imp_right (List.mem_cons_of_mem _)

theorem getLast?_replaceAll (a b : Char) (image t : Text) :
    (Text.replaceAll a b (image ++ [b]) t).getLast? = t.getLast? := by
  fun_induction Text.replaceAll a b (image ++ [b]) t with
  | case1 => rfl
  | case2 c => rfl
  | case3 c d r h ih =>
    rw [List.getLast?_append, ih, h.2]
    cases r <;> simp [List.getLast?_cons]
  | case4 c d r h ih => rw [List.getLast?_cons, ih, ← List.getLast?_cons]

theorem isLine_commentContent {line : Text} (h : '\n' ∉ line) : IsLine (commentContent line) where
  no_newline hn := by
    rw [commentContent, Text.ofString_eq] at hn
    rcases mem_replaceAll hn with hn | hn
    · exact absurd hn (by decide)
    · exact h ((Text.trimEnd_isPrefix line).subset hn)
  last hl := by
    rw [commentContent, Text.ofString_eq] at hl
    have himage : "*\\/".toList = ['*', '\\'] ++ ['/'] := by decide
    rw [himage, getLast?_replaceAll] at hl
    exact absurd (Text.isBlank_getLast?_trimEnd hl) (by decide)

/-- **The lines of a comment** can be cut apart again, whatever the description is. -/
theorem lineSafe_docComment {indent : Text} (h : NoControl indent) (description : Option Text) :
    ∀ l ∈ docComment indent description, LineSafe l := by
  have hword : ∀ w : String, NoControl w.toList → LineSafe (indent ++ (w : Text)) :=
    fun w hw => (h.append (.of_string hw)).lineSafe
  intro l hl
  cases description with
  | none => exact absurd hl List.not_mem_nil
  | some t =>
    simp only [docComment, List.mem_append, List.mem_cons, List.mem_map, List.not_mem_nil,
      or_false] at hl
    rcases hl with (rfl | ⟨line, hline, rfl⟩) | rfl
    · exact hword _ (by decide)
    · have hcontent := isLine_commentContent (Text.no_newline_of_mem_lines hline)
      unfold commentLine
      split
      · exact hword _ (by decide)
      · exact (hword _ (by decide)).append (.of_isLine hcontent)
    · exact hword _ (by decide)

/-! ## Blocks -/

theorem lineSafe_closingLines : ∀ l ∈ closingLines, LineSafe l := by
  intro l hl
  simp only [closingLines, List.mem_cons, List.not_mem_nil, or_false] at hl
  rcases hl with rfl | rfl
  · exact NoControl.lineSafe (.of_string (by decide))
  · exact NoControl.nil.lineSafe

theorem lineSafe_enumBlock {e : EnumDeclaration} (h : e.Sound) :
    ∀ l ∈ enumBlock e, LineSafe l := by
  intro l hl
  simp only [enumBlock, List.mem_append, List.mem_cons, List.mem_map] at hl
  rcases hl with (hl | rfl | ⟨m, hm, rfl⟩) | hl
  · exact lineSafe_docComment .nil _ l hl
  · exact NoControl.lineSafe (.append (.append (.of_string (by decide)) h.name.characters.noControl)
      (.of_string (by decide)))
  · unfold EnumMember.line
    exact NoControl.lineSafe (.append (.append (.append (.append noControl_indentation
      (h.members m hm).noControl) (.of_string (by decide))) (Json.noControl_stringLiteral m.value))
      (.of_string (by decide)))
  · exact lineSafe_closingLines l hl

theorem lineSafe_typeBlock {t : TypeDeclaration} (ht : t.Sound)
    (h : ∀ p ∈ t.properties, p.ControlFree) (style : Style) (keywords : Bool) {name : Text}
    (hname : NoControl name) : ∀ l ∈ typeBlock style keywords name t, LineSafe l := by
  have hword : ∀ w : String, NoControl w.toList → NoControl (w : Text) := fun _ hw => .of_string hw
  intro l hl
  simp only [typeBlock, List.mem_append, List.mem_cons, List.mem_flatMap] at hl
  rcases hl with ((hl | rfl | ⟨p, hp, hl⟩) | hl) | hl
  · exact lineSafe_docComment .nil _ l hl
  · have hkeyword : NoControl style.keyword := by
      cases style <;> exact hword _ (by decide)
    exact NoControl.lineSafe (.append (.append (.append (.append (hword _ (by decide)) hkeyword)
      (hword _ (by decide))) hname) (hword _ (by decide)))
  · simp only [memberLines, List.mem_append, List.mem_singleton] at hl
    rcases hl with hl | rfl
    · exact lineSafe_docComment noControl_indentation _ l hl
    · exact (noControl_memberLine (ht.properties p hp) (h p hp) style keywords).lineSafe
  · cases style with
    | plainClass =>
      simp only [trailerLines, constructorLines, List.mem_append, List.mem_ite_nil_left,
        List.mem_cons, List.not_mem_nil, or_false] at hl
      rcases hl with ⟨-, rfl⟩ | rfl | rfl | rfl | rfl | rfl
      · exact NoControl.nil.lineSafe
      · exact NoControl.lineSafe (.append (.append (hword _ (by decide)) hname)
          (hword _ (by decide)))
      all_goals exact NoControl.lineSafe (hword _ (by decide))
    | interface => exact absurd hl List.not_mem_nil
    | observableClass => exact absurd hl List.not_mem_nil
  · exact lineSafe_closingLines l hl

/-! ## Hand-written code -/

/-- **No carriage return** comes into the body of a code whose lines have none. -/
theorem no_return_ofLines {statement lines : List Text} (hs : ∀ l ∈ statement, '\r' ∉ l)
    (hl : ∀ l ∈ lines, '\r' ∉ l) : '\r' ∉ (ImportSplit.ofLines statement lines).body := by
  induction lines generalizing statement with
  | nil =>
    intro h
    obtain ⟨l, hmem, hr⟩ := List.mem_flatMap.mp h
    rcases List.mem_append.mp hr with hr | hr
    · exact hs l hmem hr
    · rw [Text.ofString_eq] at hr
      exact absurd hr (by decide)
  | cons line rest ih =>
    obtain ⟨hline, hrest⟩ := List.forall_mem_cons.mp hl
    have hnone : '\r' ∉ (ImportSplit.ofLines [] rest).body := ih (List.forall_mem_nil _) hrest
    rw [ImportSplit.ofLines]
    dsimp only
    split_ifs
    · exact hnone
    · exact fun h => (List.mem_append.mp h).elim hline hnone
    · exact hnone
    · refine ih (List.forall_mem_append.mpr ⟨hs, List.forall_mem_singleton.mpr ?_⟩) hrest
      exact fun h => hline ((Text.trimEnd_isPrefix line).subset h)

theorem no_return_split (code : Text) : '\r' ∉ (ExtensionIndex.split code).body := by
  refine no_return_ofLines (List.forall_mem_nil _) fun l hl hr => ?_
  have hmem : '\r' ∈ (Text.inclusiveLines (code.filter (· ≠ '\r'))).flatten :=
    List.mem_flatten.mpr ⟨l, hl, hr⟩
  rw [Text.flatten_inclusiveLines] at hmem
  exact absurd (List.mem_filter.mp hmem).2 (by decide)

theorem Text.trim_subset (t : Text) : Text.trim t ⊆ t :=
  fun _ hc => (List.dropWhile_suffix Text.isBlank).subset ((trimEnd_isPrefix _).subset hc)

theorem Text.slice_subset (t : Text) (i j : Nat) : t.slice i j ⊆ t :=
  fun _ hc => List.mem_of_mem_drop (List.mem_of_mem_take hc)

theorem without_subset (names : List Text) (code : Text) (position : Nat)
    (spans : List ClassSpan) : ExtensionIndex.without names code position spans ⊆ code := by
  induction spans generalizing position with
  | nil => exact fun _ => List.mem_of_mem_drop
  | cons s spans ih =>
    rw [ExtensionIndex.without]
    split_ifs
    · exact List.append_subset.mpr ⟨code.slice_subset _ _, ih _⟩
    · exact ih _

/-- **No carriage return is in what an index keeps of its code.** -/
theorem ExtensionIndex.no_return_ofCode (code : Text) (extended : List Text) :
    '\r' ∉ (ofCode code extended).remainingCode ∧
      ∀ c ∈ (ofCode code extended).classes, '\r' ∉ c.code := by
  have hsplit := no_return_split code
  refine ⟨fun h => hsplit (without_subset _ _ _ _ (Text.trim_subset _ h)), fun c hc h => ?_⟩
  obtain ⟨span, _, rfl⟩ := List.mem_map.mp hc
  exact hsplit (Text.slice_subset _ _ _ (Text.trim_subset _ h))

/-! ## The body -/

theorem lineSafe_typeLines {s : Settings} {index : ExtensionIndex}
    (hindex : ∀ c ∈ index.classes, '\r' ∉ c.code) {t : TypeDeclaration} (ht : t.Sound)
    (h : ∀ p ∈ t.properties, p.ControlFree) : ∀ l ∈ typeLines s index t, LineSafe l := by
  have hname := ht.name.characters.noControl
  intro l hl
  unfold typeLines at hl
  split at hl
  · next c hc =>
    have hmem : c ∈ index.classes := by
      unfold ExtensionIndex.extension? at hc
      split_ifs at hc
      exact List.mem_of_find?_eq_some hc
    rcases List.mem_append.mp hl with hl | hl
    · exact lineSafe_typeBlock ht h _ _ (hname.append (.of_string (by decide))) l hl
    · simp only [List.mem_cons, List.not_mem_nil, or_false] at hl
      rcases hl with rfl | rfl
      · exact .of_not_mem (hindex c hmem)
      · exact NoControl.nil.lineSafe
  · exact lineSafe_typeBlock ht h _ _ hname l hl

/-- **No carriage return in a body goes with a line feed.** -/
theorem lineSafe_body {s : Settings} (hs : s.Coherent) {schema : Text} {o : Outline}
    (ho : Outline.ofText s.dateType schema = .ok o) : LineSafe (body s s.index o) := by
  have hcontrol := Outline.controlFree_of_ofText ho
  obtain ⟨hremaining, hclasses⟩ :=
    ExtensionIndex.no_return_ofCode s.extensionCode (s.extendedClasses.getD [])
  rw [hs.index_eq]
  refine LineSafe.trimEnd (.unlines fun l hl => ?_)
  rcases List.mem_append.mp hl with hl | hl
  · rcases List.mem_append.mp hl with hl | hl
    · obtain ⟨e, he, hl⟩ := List.mem_flatMap.mp hl
      obtain ⟨entry, hentry, rfl⟩ := List.mem_map.mp he
      exact lineSafe_enumBlock (hcontrol.sound.enums entry hentry) l hl
    · obtain ⟨t, ht, hl⟩ := List.mem_flatMap.mp hl
      obtain ⟨key, hkey⟩ := Outline.mem_declarations_of_mem_types ht
      exact lineSafe_typeLines hclasses (hcontrol.sound.types _ hkey)
        (hcontrol.properties _ hkey) l hl
  · unfold remainderLines at hl
    split_ifs at hl
    · exact absurd hl List.not_mem_nil
    · rw [List.mem_singleton.mp hl]
      exact .of_not_mem hremaining

end SchemaTypes
