import SchemaTypes.Proofs.Schema.Ordered
import SchemaTypes.Session

/-!
# What a generation writes

* `Settings.Coherent`: an index that is kept is the one of the code.
* `coherent_after`, `coherent_settings`: so it is all through a session.
* `documentText`: the text of a document.
* **`output_of_failure_eq_none`**: a generation that does not fail writes the document of an
  outline.
-/

namespace SchemaTypes

/-! ## Settings -/

/-- An index that is kept is the one of the code as it is. -/
def Settings.Coherent (s : Settings) : Prop :=
  ∀ index ∈ s.index?, index = s.freshIndex

namespace Settings.Coherent

variable {s : Settings}

theorem index_eq (h : s.Coherent) : s.index = s.freshIndex := by
  unfold index
  cases hi : s.index? with
  | none => rfl
  | some i => exact h i hi

theorem indexed (h : s.Coherent) : s.indexed.Coherent := by
  intro i hi
  obtain rfl : s.index = i := Option.some.inj hi
  exact h.index_eq

theorem of_index?_eq_none (h : s.index? = none) : s.Coherent := by
  intro i hi
  rw [h] at hi
  exact absurd hi (by simp)

end Settings.Coherent

theorem coherent_generate {s : Settings} (h : s.Coherent) (schema : Text) (sink : Sink) :
    (generate s schema sink).settings.Coherent := by
  unfold generate
  cases Outline.ofText s.dateType schema with
  | error f => exact h
  | ok o => exact h.indexed

/-- **Every operation leaves coherent settings.** -/
theorem coherent_after {s : Settings} (h : s.Coherent) (o : Operation) :
    (o.after s).Coherent := by
  cases o with
  | reset => exact .of_index?_eq_none rfl
  | setStyle name =>
    simp only [Operation.after, Operation.changed]
    split <;> exact h
  | setDateType name =>
    simp only [Operation.after, Operation.changed]
    split <;> exact h
  | setExtensionCode code =>
    simp only [Operation.after, Settings.setExtensionCode]
    split
    · exact h
    · exact .of_index?_eq_none rfl
  | setExtendedClasses names =>
    simp only [Operation.after, Settings.setExtendedClasses]
    split
    · exact h
    · exact .of_index?_eq_none rfl
  | extensionClass | missingClasses | importCode | remainingCode => exact h.indexed
  | generate schema sink => exact coherent_generate h schema sink
  | _ => exact h

theorem coherent_settings (os : List Operation) : (Session.settings {} os).Coherent := by
  unfold Session.settings
  have h : ({} : Settings).Coherent := .of_index?_eq_none rfl
  generalize ({} : Settings) = s at h
  induction os generalizing s with
  | nil => exact h
  | cons o os ih => exact ih _ (coherent_after h o)

/-! ## Output -/

theorem Sink.bytes_write {sink : Sink} {ts : List Text} (h : (sink.write ts).complete = true) :
    (sink.write ts).bytes = Text.utf8 ts.flatten := by
  induction ts generalizing sink with
  | nil => rfl
  | cons t ts ih =>
    unfold write at h ⊢
    dsimp only at h ⊢
    split
    · next hfits =>
      rw [if_pos hfits] at h
      rw [ih h, List.flatten_cons, Text.utf8_append]
    · next hfits =>
      rw [if_neg hfits] at h
      exact absurd h (by simp)

theorem Sink.complete_write {sink : Sink} (h : sink.room = none) (ts : List Text) :
    (sink.write ts).complete = true := by
  induction ts generalizing sink with
  | nil => rfl
  | cons t ts ih =>
    have hfits : sink.fits (Text.utf8 t) = true := by simp [fits, h]
    have hless : (sink.less (Text.utf8 t)).room = none := by simp [less, h]
    rw [write, if_pos hfits]
    exact ih hless

theorem unlines_flatMap {α : Type} (f : α → List Text) (l : List α) :
    unlines (l.flatMap f) = l.flatMap fun a => unlines (f a) :=
  List.flatMap_assoc

/-- The text of a document. -/
def documentText (settings : Settings) (index : ExtensionIndex) (o : Outline) : Text :=
  unlines (document settings index o)

/-- **A generation that does not fail** writes the document of the outline of its schema. -/
theorem output_of_failure_eq_none {s : Settings} {schema : Text} {sink : Sink}
    (h : (generate s schema sink).failure = none) :
    ∃ o, Outline.ofText s.dateType schema = .ok o ∧
      (generate s schema sink).output = Text.utf8 (documentText s s.index o) := by
  unfold generate at h ⊢
  cases ho : Outline.ofText s.dateType schema with
  | error f =>
    rw [ho] at h
    exact absurd h (by simp)
  | ok o =>
    rw [ho] at h
    dsimp only at h ⊢
    refine ⟨o, rfl, ?_⟩
    have hc : (sink.write (documentPieces s o)).complete = true := by
      rw [← Bool.not_eq_false]
      intro hc
      simp [hc] at h
    rw [Sink.bytes_write hc, documentPieces, documentText, unlines, List.flatMap_def]

/-- **A schema with an outline** is written to a sink without an end. -/
theorem failure_generate {s : Settings} {schema : Text} {sink : Sink} {o : Outline}
    (h : Outline.ofText s.dateType schema = .ok o) (hsink : sink.room = none) :
    (generate s schema sink).failure = none := by
  unfold generate
  rw [h]
  dsimp only
  rw [if_pos (Sink.complete_write hsink _)]

/-- **The document of an outline** is what is written to a sink without an end. -/
theorem output_generate {s : Settings} {schema : Text} {o : Outline}
    (h : Outline.ofText s.dateType schema = .ok o) :
    (generate s schema {}).output = Text.utf8 (documentText s s.index o) := by
  have hfailure : (generate s schema {}).failure = none := failure_generate h rfl
  obtain ⟨o', ho', hout⟩ := output_of_failure_eq_none hfailure
  obtain rfl : o = o' := Except.ok.inj (h.symm.trans ho')
  exact hout

/-- Whether and how a generation to a sink without an end fails depends on the type of dates and
the schema alone. -/
theorem failure_generate_congr {s s' : Settings} (h : s.dateType = s'.dateType) (schema : Text) :
    (generate s schema {}).failure = (generate s' schema {}).failure := by
  cases ho : Outline.ofText s.dateType schema with
  | error f =>
    unfold generate
    rw [← h, ho]
  | ok o => rw [failure_generate ho rfl, failure_generate (h ▸ ho) rfl]

end SchemaTypes
