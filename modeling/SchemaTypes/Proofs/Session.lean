import Mathlib
import SchemaTypes.Proofs.Generation.Output

/-!
# The index in a session

Settings keep the index of their hand-written code from when it is first asked for until the code
or the extended classes change. What comes of an operation does not depend on whether an index is
kept, and an index is built only when none has been since the last change.

* `Settings.anew`: settings that are made anew with the same values.
* `Operation.Asks`, `Operation.Drops`, `Operation.Builds`: what an operation has to do with the
  index.
* `Session.last`: what was given last in a session, such as the hand-written code.
* `Built`: in a session an index has been built and not been dropped since.
* `isSome_index?_after`: what an operation leaves of the index.
* `isSome_index?_settings`: an index is kept at the end of a session if one has been built.
* **`step_session`**: every step of a session.
-/

namespace SchemaTypes

/-! ## Settings made anew -/

namespace Settings

/-- The default settings, changed until they have the values of the given ones. -/
def anew (s : Settings) : Settings :=
  let plain : Settings :=
    { style := s.style, classTypes := s.classTypes, dateType := s.dateType,
      moduleName := s.moduleName, readOnlyKeywords := s.readOnlyKeywords }
  (plain.setExtensionCode s.extensionCode).setExtendedClasses s.extendedClasses

theorem setExtensionCode_of_index?_eq_none {s : Settings} (h : s.index? = none) (code : Text) :
    s.setExtensionCode code = { s with extensionCode := code } := by
  unfold setExtensionCode
  split_ifs with hcode
  · rw [hcode]
  · rw [← h]

theorem setExtendedClasses_of_index?_eq_none {s : Settings} (h : s.index? = none)
    (names : Option (List Text)) :
    s.setExtendedClasses names = { s with extendedClasses := names } := by
  unfold setExtendedClasses
  split_ifs with hnames
  · rw [hnames]
  · rw [← h]

theorem anew_eq (s : Settings) : s.anew = { s with index? := none } := by
  unfold anew
  dsimp only
  rw [setExtensionCode_of_index?_eq_none rfl, setExtendedClasses_of_index?_eq_none rfl]

@[simp] theorem index_anew (s : Settings) : s.anew.index = s.freshIndex := by
  rw [anew_eq]
  rfl

theorem Coherent.index_eq_anew {s : Settings} (h : s.Coherent) : s.index = s.anew.index := by
  rw [index_anew, h.index_eq]

end Settings

/-- What is shown of an answer: of settings all but the index that they keep. -/
def Answer.shown : Answer → Answer
  | .settings s => .settings { s with index? := none }
  | a => a

/-! ## What a generation depends on -/

/-- A document depends on the index and on what is said of styles and modules. -/
theorem documentPieces_anew {s : Settings} (h : s.Coherent) (o : Outline) :
    documentPieces s.anew o = documentPieces s o := by
  unfold documentPieces
  rw [← h.index_eq_anew, s.anew_eq]
  rfl

theorem generate_anew {s : Settings} (h : s.Coherent) (schema : Text) (sink : Sink) :
    (generate s.anew schema sink).output = (generate s schema sink).output ∧
      (generate s.anew schema sink).failure = (generate s schema sink).failure := by
  have hdates : s.anew.dateType = s.dateType := by rw [s.anew_eq]
  unfold generate
  rw [hdates]
  cases Outline.ofText s.dateType schema with
  | error f => exact ⟨rfl, rfl⟩
  | ok o =>
    dsimp only
    rw [documentPieces_anew h]
    exact ⟨rfl, rfl⟩

/-- **An answer is that of settings made anew**, if the index that is kept is the one of the
code. -/
theorem answer_anew {s : Settings} (h : s.Coherent) (o : Operation) :
    (o.answer s.anew).shown = (o.answer s).shown := by
  cases o with
  | settings =>
    rw [s.anew_eq]
    rfl
  | styleOf | chooseStyle =>
    rw [s.anew_eq]
    rfl
  | extensionClass | missingClasses | importCode | remainingCode =>
    unfold Operation.answer
    dsimp only
    rw [h.index_eq_anew]
  | generate schema sink =>
    obtain ⟨houtput, hfailure⟩ := generate_anew h schema sink
    unfold Operation.answer Operation.generationAnswer
    dsimp only
    rw [houtput, hfailure]
  | _ => rfl

/-! ## Operations and the index -/

namespace Event

/-- The wording of the event that an index is built. -/
def buildingMessage : Text := "building processed extension code"

theorem message_eq_building_iff (e : Event) :
    e.message = buildingMessage ↔ ∃ bytes, e = .buildingIndex bytes := by
  cases e with
  | buildingIndex bytes => exact ⟨fun _ => ⟨bytes, rfl⟩, fun _ => rfl⟩
  | _ =>
    constructor
    · intro h
      exact absurd h (by unfold message buildingMessage; cbv; decide)
    · rintro ⟨bytes, h⟩
      cases h

end Event

namespace Operation

/-- The operation asks for the index. A generation does if its schema has an outline. -/
def Asks (s : Settings) : Operation → Prop
  | extensionClass _ | missingClasses | importCode | remainingCode => True
  | generate schema _ => ∃ o, Outline.ofText s.dateType schema = .ok o
  | _ => False

/-- The operation goes back to the default settings or makes the code or the extended classes
others than they are. -/
def Drops (s : Settings) : Operation → Prop
  | reset => True
  | setExtensionCode code => code ≠ s.extensionCode
  | setExtendedClasses names => names ≠ s.extendedClasses
  | _ => False

/-- An event of the operation tells that an index is built. -/
def Builds (s : Settings) (o : Operation) : Prop :=
  ∃ e ∈ o.events s, e.message = Event.buildingMessage

variable {s : Settings}

theorem builds_iff_mem {o : Operation} :
    o.Builds s ↔ ∃ bytes, .buildingIndex bytes ∈ o.events s := by
  unfold Builds
  constructor
  · rintro ⟨e, he, hmessage⟩
    obtain ⟨bytes, rfl⟩ := e.message_eq_building_iff.mp hmessage
    exact ⟨bytes, he⟩
  · rintro ⟨bytes, he⟩
    exact ⟨_, he, rfl⟩

end Operation

theorem Settings.mem_indexEvents_iff {s : Settings} :
    (∃ bytes, .buildingIndex bytes ∈ s.indexEvents) ↔ s.index? = none := by
  unfold indexEvents
  cases s.index? with
  | none => exact ⟨fun _ => rfl, fun _ => ⟨_, List.mem_cons_self⟩⟩
  | some index => exact ⟨fun ⟨_, h⟩ => absurd h List.not_mem_nil, nofun⟩

theorem mem_events_generate_iff {s : Settings} {schema : Text} {sink : Sink} {o : Outline}
    (h : Outline.ofText s.dateType schema = .ok o) {bytes : Nat} :
    .buildingIndex bytes ∈ (generate s schema sink).events ↔
      .buildingIndex bytes ∈ s.indexEvents := by
  have hstyle : ∀ t : TypeDeclaration, s.templateEvent t.name ≠ .buildingIndex bytes := by
    intro t
    unfold Settings.templateEvent
    split_ifs <;> nofun
  unfold generate Outline.events Outline.generatedEvent
  rw [h]
  dsimp only
  split_ifs <;> simp [hstyle]

namespace Operation

variable {s : Settings}

/-- **An operation builds an index** if it asks for it and none is kept. -/
theorem builds_iff (o : Operation) : o.Builds s ↔ o.Asks s ∧ s.index? = none := by
  rw [builds_iff_mem]
  cases o with
  | extensionClass | missingClasses | importCode | remainingCode =>
    exact Settings.mem_indexEvents_iff.trans ⟨fun h => ⟨trivial, h⟩, And.right⟩
  | generate schema sink =>
    unfold events Asks
    dsimp only
    cases ho : Outline.ofText s.dateType schema with
    | error f =>
      unfold SchemaTypes.generate
      rw [ho]
      simp
    | ok o =>
      simp only [mem_events_generate_iff ho, Settings.mem_indexEvents_iff, Except.ok.injEq,
        exists_eq', true_and]
  | chooseStyle name =>
    unfold events Settings.templateEvent Asks
    dsimp only
    split_ifs <;> simp
  | _ => simp [events, Asks]

/-- **What an operation leaves of the index.** -/
theorem isSome_index?_after (o : Operation) :
    (o.after s).index?.isSome ↔ o.Builds s ∨ s.index?.isSome ∧ ¬o.Drops s := by
  rw [builds_iff]
  cases o with
  | reset => simp [after, Asks, Drops]
  | setStyle name =>
    unfold after changed Asks Drops
    dsimp only
    split <;> simp
  | setDateType name =>
    unfold after changed Asks Drops
    dsimp only
    split <;> simp
  | setExtensionCode code =>
    unfold after Settings.setExtensionCode Asks Drops
    dsimp only
    split_ifs with h <;> simp [h]
  | setExtendedClasses names =>
    unfold after Settings.setExtendedClasses Asks Drops
    dsimp only
    split_ifs with h <;> simp [h]
  | extensionClass | missingClasses | importCode | remainingCode =>
    cases h : s.index? <;> simp [after, Asks, Drops, Settings.indexed]
  | generate schema sink =>
    unfold after Asks Drops SchemaTypes.generate
    dsimp only
    cases Outline.ofText s.dateType schema with
    | error f => simp
    | ok o => cases h : s.index? <;> simp [Settings.indexed]
  | _ => simp [after, Asks, Drops, Settings.setClassTypes]

end Operation

/-! ## What is given -/

namespace Operation

/-- The hand-written code that an operation gives. -/
def code? : Operation → Option Text
  | reset => some []
  | setExtensionCode code => some code
  | _ => none

/-- The extended classes that an operation gives. -/
def extendedClasses? : Operation → Option (Option (List Text))
  | reset => some none
  | setExtendedClasses names => some names
  | _ => none

/-- **The code and the extended classes after an operation** are those that it gives; if it gives
none, they are those before it. -/
theorem given_after (s : Settings) (o : Operation) :
    (o.after s).extensionCode = o.code?.getD s.extensionCode ∧
      (o.after s).extendedClasses = o.extendedClasses?.getD s.extendedClasses := by
  cases o with
  | setStyle name | setDateType name =>
    unfold after changed
    dsimp only
    split <;> exact ⟨rfl, rfl⟩
  | setExtensionCode code =>
    unfold after Settings.setExtensionCode
    dsimp only
    split_ifs with h
    · exact ⟨h.symm, rfl⟩
    · exact ⟨rfl, rfl⟩
  | setExtendedClasses names =>
    unfold after Settings.setExtendedClasses
    dsimp only
    split_ifs with h
    · exact ⟨rfl, h.symm⟩
    · exact ⟨rfl, rfl⟩
  | generate schema sink =>
    unfold after SchemaTypes.generate
    dsimp only
    cases Outline.ofText s.dateType schema <;> exact ⟨rfl, rfl⟩
  | _ => exact ⟨rfl, rfl⟩

end Operation

/-- What the operations of a session give last, or what there was before them. -/
def Session.last {α : Type} (given : Operation → Option α) (start : α) (os : List Operation) : α :=
  (os.filterMap given).getLast?.getD start

theorem Session.last_concat {α : Type} (given : Operation → Option α) (start : α)
    (os : List Operation) (o : Operation) :
    Session.last given start (os ++ [o]) = (given o).getD (Session.last given start os) := by
  unfold last
  rw [List.filterMap_append]
  cases h : given o with
  | none => rw [List.filterMap_cons_none h, List.filterMap_nil, List.append_nil, Option.getD_none]
  | some v =>
    rw [List.filterMap_cons_some h, List.filterMap_nil, List.getLast?_concat, Option.getD_some,
      Option.getD_some]

/-! ## Sessions -/

theorem Session.run_append (s : Settings) (os os' : List Operation) :
    Session.run s (os ++ os') = Session.run s os ++ Session.run (Session.settings s os) os' := by
  induction os generalizing s with
  | nil => rfl
  | cons o os ih =>
    rw [List.cons_append, run, run, ih, List.cons_append]
    rfl

theorem Session.length_run (s : Settings) (os : List Operation) :
    (Session.run s os).length = os.length := by
  induction os generalizing s with
  | nil => rfl
  | cons o os ih => rw [run, List.length_cons, ih, List.length_cons]

theorem Session.settings_concat (s : Settings) (os : List Operation) (o : Operation) :
    Session.settings s (os ++ [o]) = o.after (Session.settings s os) := by
  unfold settings
  rw [List.foldl_append]
  rfl

/-- **The code and the extended classes in a session** are those that were given last. -/
theorem Session.given_settings (os : List Operation) :
    (Session.settings {} os).extensionCode = Session.last Operation.code? [] os ∧
      (Session.settings {} os).extendedClasses =
        Session.last Operation.extendedClasses? none os := by
  induction os using List.reverseRecOn with
  | nil => exact ⟨rfl, rfl⟩
  | append_singleton os o ih =>
    rw [Session.settings_concat, Session.last_concat, Session.last_concat, ← ih.1, ← ih.2]
    exact Operation.given_after _ o

/-- In a session that starts from the default settings an index has been built, and no operation
since has dropped it. -/
def Built (os : List Operation) : Prop :=
  ∃ before o later, os = before ++ o :: later ∧ o.Builds (Session.settings {} before) ∧
    ∀ earlier o' rest, later = earlier ++ o' :: rest →
      ¬o'.Drops (Session.settings {} (before ++ o :: earlier))

theorem not_built_nil : ¬Built [] := by
  rintro ⟨before, o, later, hsplit, _⟩
  exact absurd hsplit.symm (by simp)

/-- One operation more builds the index, or keeps one that has been built unless it drops it. -/
theorem built_concat_iff (os : List Operation) (o : Operation) :
    Built (os ++ [o]) ↔
      o.Builds (Session.settings {} os) ∨ Built os ∧ ¬o.Drops (Session.settings {} os) := by
  constructor
  -- what has built the index is the last operation or stands before it
  · rintro ⟨before, b, later, hsplit, hbuilds, hkept⟩
    rcases concat_eq_append_cons_iff.mp hsplit with ⟨rfl, rfl, rfl⟩ | ⟨init, rfl, rfl⟩
    · exact .inl hbuilds
    · refine .inr ⟨⟨before, b, init, rfl, hbuilds, ?_⟩, hkept init o [] rfl⟩
      rintro earlier o' rest rfl
      exact hkept earlier o' (rest ++ [o]) (by rw [List.append_assoc, List.cons_append])
  · rintro (hbuilds | ⟨⟨before, b, later, rfl, hbuilds, hkept⟩, hdrops⟩)
    · refine ⟨os, o, [], rfl, hbuilds, fun earlier o' rest h => ?_⟩
      exact absurd h.symm (by simp)
    · refine ⟨before, b, later ++ [o], by rw [List.append_assoc, List.cons_append], hbuilds, ?_⟩
      intro earlier o' rest hsplit
      rcases concat_eq_append_cons_iff.mp hsplit with ⟨rfl, rfl, rfl⟩ | ⟨init, rfl, hlater⟩
      · exact hdrops
      · exact hkept earlier o' init hlater

/-- **An index is kept at the end of a session** if one has been built and not been dropped. -/
theorem isSome_index?_settings (os : List Operation) :
    (Session.settings {} os).index?.isSome ↔ Built os := by
  -- from the end: what an operation does depends on the settings that those before it leave
  induction os using List.reverseRecOn with
  | nil => exact ⟨fun h => absurd h nofun, fun h => absurd h not_built_nil⟩
  | append_singleton os o ih =>
    rw [Session.settings_concat, Operation.isSome_index?_after, ih, built_concat_iff]

/-- **Every step of a session** that starts from the default settings: the index is that of the
code and the extended classes as they are, which are those that were given last, so that all answers
and all that is generated are those of settings made anew with the same values; and the step builds
an index exactly if it asks for it and none has been built since the code or the extended classes
changed. A clone goes on with what has been kept, so a session may go on with either it or its
source. -/
theorem step_session (before : List Operation) (o : Operation) (later : List Operation) :
    let s := Session.settings {} before
    (Session.run {} (before ++ o :: later))[before.length]? = some ⟨o.answer s, o.events s⟩ ∧
      s.extensionCode = Session.last Operation.code? [] before ∧
      s.extendedClasses = Session.last Operation.extendedClasses? none before ∧
      s.index = .ofCode s.extensionCode (s.extendedClasses.getD []) ∧
      (o.answer s).shown = (o.answer s.anew).shown ∧
      (∀ schema sink, (generate s schema sink).output = (generate s.anew schema sink).output ∧
        (generate s schema sink).failure = (generate s.anew schema sink).failure) ∧
      (o.Builds s ↔ o.Asks s ∧ ¬Built before) := by
  intro s
  have hcoherent : s.Coherent := coherent_settings before
  obtain ⟨hcode, hextended⟩ := Session.given_settings before
  refine ⟨?_, hcode, hextended, hcoherent.index_eq, (answer_anew hcoherent o).symm,
    fun schema sink => ?_, ?_⟩
  · rw [Session.run_append, ← Session.length_run {} before,
      List.getElem?_append_right (Nat.le_refl _), Nat.sub_self]
    rfl
  · obtain ⟨houtput, hfailure⟩ := generate_anew hcoherent schema sink
    exact ⟨houtput.symm, hfailure.symm⟩
  · rw [Operation.builds_iff, ← isSome_index?_settings, Option.not_isSome_iff_eq_none]

/-- Code that is changed and changed back is indexed again. -/
example :
    (Session.run {} [.importCode, .missingClasses, .setExtensionCode "a", .setExtensionCode [],
      .importCode]).map (fun step => step.events.length) = [2, 0, 0, 0, 2] := by
  cbv

end SchemaTypes
