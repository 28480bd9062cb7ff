import SchemaTypes.Proofs.Files.Output
import SchemaTypes.Proofs.Session

/-!
# Settings in layers

Arguments lie on the settings file, and the settings file on the defaults, each setting by itself.

* `FileTree.Holds`: a text that can be read from a file.
* `FileValues`: the values that a settings file gives.
* `SettingsFile.Gives`, `Arguments.FileGives`: what has to be read and to be valid for them.
* `Arguments.layered`: settings from the values of a file and of arguments.
* **`settings_layered`**: when there are settings, and which.
-/

namespace SchemaTypes

open CommandLine (Arguments)

/-! ## Texts in files -/

/-- The file at the end of the path has the bytes of the text. -/
def FileTree.Holds (tree : FileTree) (path t : Text) : Prop :=
  tree.read path = .ok (Text.utf8 t)

theorem Text.utf8_of_ofUtf8? {bytes : List UInt8} {t : Text} (h : Text.ofUtf8? bytes = some t) :
    bytes = Text.utf8 t := by
  obtain ⟨chars, hchars, rfl⟩ := Option.map_eq_some_iff.mp h
  have hsome : (ByteArray.mk bytes.toArray).utf8Decode?.isSome = true := by
    rw [hchars]
    rfl
  have hencode := ByteArray.utf8Encode_get_utf8Decode? (h := hsome)
  have hget : (ByteArray.mk bytes.toArray).utf8Decode?.get hsome = chars := by
    simp [hchars]
  rw [hget] at hencode
  have hdata := congrArg (fun b => b.data.toList) hencode
  have hutf8 : (List.utf8Encode chars.toList).data.toList = Text.utf8 chars.toList := by
    simp [List.utf8Encode, Text.utf8]
  rw [← hutf8]
  exact hdata.symm

theorem Text.utf8_injective : Function.Injective Text.utf8 := by
  intro t t' h
  have hsome := Text.ofUtf8?_utf8 t
  rw [h, Text.ofUtf8?_utf8] at hsome
  exact (Option.some.inj hsome).symm

theorem FileTree.Holds.unique {tree : FileTree} {path t t' : Text} (h : tree.Holds path t)
    (h' : tree.Holds path t') : t = t' :=
  Text.utf8_injective (Except.ok.inj (h.symm.trans h'))

/-- **A text is read** from a file that holds it, and no other is. -/
theorem runOn_readText_iff {path t : Text} {tree : FileTree} :
    runOn (readText path) tree = (.ok t, tree) ↔ tree.Holds path t := by
  constructor
  · intro h
    have hdecode : decodeText (tree.read path) = .ok t := congrArg Prod.fst h
    unfold decodeText at hdecode
    unfold FileTree.Holds
    split at hdecode
    · cases hdecode
    · next bytes hread =>
      split at hdecode
      · next t' hbytes =>
        obtain rfl := Except.ok.inj hdecode
        rw [hread, ← Text.utf8_of_ofUtf8? hbytes]
      · cases hdecode
  · exact runOn_readText

/-! ## Actions that only read -/

section Reading

variable {α β : Type} {P : Failure → Prop}

theorem runOn_pure_iff {v w : α} {tree : FileTree} :
    runOn (pure v) tree = (.ok w, tree) ↔ w = v := by
  simp [runOn_pure, eq_comm]

theorem runOn_ofExcept_iff {r : Except Failure α} {v : α} {tree : FileTree} :
    runOn (MonadExcept.ofExcept r) tree = (.ok v, tree) ↔ r = .ok v := by
  simp [runOn_ofExcept]

/-- **What comes of an action behind one that only reads** comes of it on the same files. -/
theorem ReadsOnly.ok_bind_iff {x : ExceptT Failure (StateM FileTree) α}
    {f : α → ExceptT Failure (StateM FileTree) β} (hx : ReadsOnly P x) {tree : FileTree} {w : β} :
    runOn (x >>= f) tree = (.ok w, tree) ↔
      ∃ v, runOn x tree = (.ok v, tree) ∧ runOn (f v) tree = (.ok w, tree) := by
  obtain ⟨r, hr, -⟩ := hx tree
  rw [runOn_bind, hr]
  cases r <;> simp

theorem exists_rel_none {r : α → β → Prop} {Q : Option β → Prop} :
    (∃ v, Option.Rel r none v ∧ Q v) ↔ Q none := by
  constructor
  · rintro ⟨_, ⟨⟩, hq⟩
    exact hq
  · intro hq
    exact ⟨none, .none, hq⟩

theorem exists_rel_some {r : α → β → Prop} {a : α} {Q : Option β → Prop} :
    (∃ v, Option.Rel r (some a) v ∧ Q v) ↔ ∃ b, r a b ∧ Q (some b) := by
  constructor
  · rintro ⟨_, ⟨hr⟩, hq⟩
    exact ⟨_, hr, hq⟩
  · rintro ⟨b, hr, hq⟩
    exact ⟨some b, .some hr, hq⟩

theorem rel_unique {r : α → β → Prop} (hr : ∀ a b b', r a b → r a b' → b = b') {o : Option α}
    {v v' : Option β} (h : Option.Rel r o v) (h' : Option.Rel r o v') : v = v' := by
  cases h with
  | none =>
    cases h'
    rfl
  | some hab =>
    cases h' with
    | some hab' => rw [hr _ _ _ hab hab']

end Reading

/-! ## Settings files -/

/-- The values that a settings file gives, with the hand-written code itself. -/
@[ext]
structure FileValues where
  style : Option Style := none
  classTypes : Option (List Text) := none
  dateType : Option DateType := none
  moduleName : Option Text := none
  readOnlyKeywords : Option Bool := none
  extensionCode : Option Text := none
  extendedClasses : Option (List Text) := none

/-- The default settings with the values of a file in their place. -/
def FileValues.settings (v : FileValues) : Settings where
  style := v.style.getD .interface
  classTypes := v.classTypes.map sortedDistinct
  dateType := v.dateType.getD .date
  moduleName := v.moduleName.getD []
  readOnlyKeywords := v.readOnlyKeywords.getD true
  extensionCode := v.extensionCode.getD []
  extendedClasses := v.extendedClasses

namespace SettingsFile

/-- What a settings file gives as the hand-written code: the code in it, or the text of the file
that it names, from its place in the directory. -/
def GivesCode (f : SettingsFile) (tree : FileTree) (directory : Text) (code : Option Text) : Prop :=
  match f.extensionCode with
  | some c => code = some c
  | none => Option.Rel (fun path t => tree.Holds (Path.join directory path) t)
      f.extensionCodeFile code

/-- **A settings file gives values** if its style and its type of dates are valid and its
hand-written code can be read. -/
structure Gives (f : SettingsFile) (tree : FileTree) (directory : Text) (v : FileValues) :
    Prop where
  style : Option.Rel (fun name style => Style.ofText? name = some style) f.style v.style
  classTypes : v.classTypes = f.classTypes
  dateType : Option.Rel (fun name dates => DateType.ofText? name = some dates) f.dateType v.dateType
  moduleName : v.moduleName = f.moduleName
  readOnlyKeywords : v.readOnlyKeywords = f.readOnlyKeywords
  extensionCode : f.GivesCode tree directory v.extensionCode
  extendedClasses : v.extendedClasses = f.extendedClasses

variable {f : SettingsFile} {tree : FileTree} {directory : Text}

theorem style?_eq_ok_iff {style : Style} :
    f.style? = .ok style ↔
      ∃ v, Option.Rel (fun name style => Style.ofText? name = some style) f.style v ∧
        style = v.getD .interface := by
  unfold style? Style.parse
  cases f.style with
  | none => simp [exists_rel_none, eq_comm]
  | some name =>
    dsimp only
    rw [exists_rel_some]
    cases Style.ofText? name <;> simp [eq_comm]

theorem dateType?_eq_ok_iff {dates : DateType} :
    f.dateType? = .ok dates ↔
      ∃ v, Option.Rel (fun name dates => DateType.ofText? name = some dates) f.dateType v ∧
        dates = v.getD .date := by
  unfold dateType? DateType.parse
  cases f.dateType with
  | none => simp [exists_rel_none, eq_comm]
  | some name =>
    dsimp only
    rw [exists_rel_some]
    cases DateType.ofText? name <;> simp [eq_comm]

theorem runOn_code_iff {t : Text} :
    runOn (f.code directory) tree = (.ok t, tree) ↔
      ∃ code, f.GivesCode tree directory code ∧ t = code.getD [] := by
  unfold code GivesCode
  cases f.extensionCode with
  | some c => simp [runOn_pure_iff]
  | none =>
    cases f.extensionCodeFile with
    | none => simp [exists_rel_none, runOn_pure_iff]
    | some path => simp [exists_rel_some, runOn_readText_iff]

theorem runOn_load_iff {path : Text} :
    runOn (load path) tree = (.ok f, tree) ↔ ∃ t, tree.Holds path t ∧ ofText t = .ok f := by
  unfold load
  rw [(readsOnly_readText path).ok_bind_iff]
  simp only [runOn_readText_iff, runOn_ofExcept_iff]

/-- **The settings of a settings file.** -/
theorem runOn_settings_iff {s : Settings} :
    runOn (f.settings directory) tree = (.ok s, tree) ↔
      ∃ v, f.Gives tree directory v ∧ s = v.settings := by
  have hstyle := readsOnly_ofExcept (P := Failure.IsReading) (fun _ => f.isReading_of_style?)
  have hdates := readsOnly_ofExcept (P := Failure.IsReading) (fun _ => f.isReading_of_dateType?)
  unfold settings
  rw [hstyle.ok_bind_iff]
  simp only [hdates.ok_bind_iff, (f.readsOnly_code directory).ok_bind_iff, runOn_ofExcept_iff,
    runOn_code_iff, runOn_pure_iff, style?_eq_ok_iff, dateType?_eq_ok_iff]
  constructor
  · rintro ⟨_, ⟨style, hstyle, rfl⟩, _, ⟨dates, hdates, rfl⟩, _, ⟨code, hcode, rfl⟩, rfl⟩
    exact ⟨⟨style, f.classTypes, dates, f.moduleName, f.readOnlyKeywords, code, f.extendedClasses⟩,
      ⟨hstyle, rfl, hdates, rfl, rfl, hcode, rfl⟩, rfl⟩
  · rintro ⟨v, hv, rfl⟩
    refine ⟨_, ⟨_, hv.style, rfl⟩, _, ⟨_, hv.dateType, rfl⟩, _, ⟨_, hv.extensionCode, rfl⟩, ?_⟩
    unfold FileValues.settings
    rw [hv.classTypes, hv.moduleName, hv.readOnlyKeywords, hv.extendedClasses]

theorem Gives.unique {v v' : FileValues} (h : f.Gives tree directory v)
    (h' : f.Gives tree directory v') : v = v' := by
  have hstyle : v.style = v'.style :=
    rel_unique (fun _ _ _ h h' => Option.some.inj (h.symm.trans h')) h.style h'.style
  have hdates : v.dateType = v'.dateType :=
    rel_unique (fun _ _ _ h h' => Option.some.inj (h.symm.trans h')) h.dateType h'.dateType
  have hcode : v.extensionCode = v'.extensionCode := by
    have hgives := h.extensionCode
    have hgives' := h'.extensionCode
    unfold GivesCode at hgives hgives'
    cases hcode : f.extensionCode with
    | some code =>
      rw [hcode] at hgives hgives'
      exact hgives.trans hgives'.symm
    | none =>
      rw [hcode] at hgives hgives'
      exact rel_unique (fun _ _ _ h h' => h.unique h') hgives hgives'
  ext1
  · exact hstyle
  · rw [h.classTypes, h'.classTypes]
  · exact hdates
  · rw [h.moduleName, h'.moduleName]
  · rw [h.readOnlyKeywords, h'.readOnlyKeywords]
  · exact hcode
  · rw [h.extendedClasses, h'.extendedClasses]

end SettingsFile

/-! ## Arguments -/

namespace CommandLine.Arguments

/-- **The settings file of the arguments gives values**, none if there is no such file. -/
def FileGives (a : Arguments) (tree : FileTree) (v : FileValues) : Prop :=
  match a.config with
  | none => v = {}
  | some path => ∃ t f, tree.Holds path t ∧ SettingsFile.ofText t = .ok f ∧
      f.Gives tree (Path.directory path) v

/-- Settings whose values are those of the arguments or, where there are none, those of a file or,
where there are none either, the defaults. Keywords for what is only read are left out if either
says so. -/
def layered (a : Arguments) (v : FileValues) (code : Option Text) : Settings where
  style := (a.style.or v.style).getD .interface
  classTypes := (a.classTypes.or v.classTypes).map sortedDistinct
  dateType := (a.dateType.or v.dateType).getD .date
  moduleName := (a.moduleName.or v.moduleName).getD []
  readOnlyKeywords := !(a.noReadOnly || v.readOnlyKeywords == some false)
  extensionCode := (code.or v.extensionCode).getD []
  extendedClasses := a.extendedClasses.or v.extendedClasses

variable {a : Arguments} {tree : FileTree}

theorem runOn_baseSettings_iff {s : Settings} :
    runOn a.baseSettings tree = (.ok s, tree) ↔ ∃ v, a.FileGives tree v ∧ s = v.settings := by
  unfold baseSettings FileGives
  cases a.config with
  | none => simp [runOn_pure_iff, FileValues.settings]
  | some path =>
    dsimp only
    rw [(SettingsFile.readsOnly_load path).ok_bind_iff]
    simp only [SettingsFile.runOn_load_iff, SettingsFile.runOn_settings_iff]
    constructor
    · rintro ⟨f, ⟨t, ht, hf⟩, v, hv, rfl⟩
      exact ⟨v, ⟨t, f, ht, hf, hv⟩, rfl⟩
    · rintro ⟨v, ⟨t, f, ht, hf, hv⟩, rfl⟩
      exact ⟨f, ⟨t, ht, hf⟩, v, hv, rfl⟩

theorem FileGives.unique {a' : Arguments} (hconfig : a.config = a'.config) {v v' : FileValues}
    (h : a.FileGives tree v) (h' : a'.FileGives tree v') : v = v' := by
  unfold FileGives at h h'
  rw [← hconfig] at h'
  cases hpath : a.config with
  | none =>
    rw [hpath] at h h'
    rw [h, h']
  | some path =>
    rw [hpath] at h h'
    obtain ⟨t, f, ht, hf, hv⟩ := h
    obtain ⟨t', f', ht', hf', hv'⟩ := h'
    obtain rfl := ht.unique ht'
    obtain rfl := Except.ok.inj (hf.symm.trans hf')
    exact hv.unique hv'

/-! ## Layers -/

/-- The settings before the arguments give the extended classes. -/
def beforeExtended (a : Arguments) (v : FileValues) (code : Option Text) : Settings :=
  { a.layered v code with extendedClasses := v.extendedClasses }

theorem overlay_settings (a : Arguments) (v : FileValues) :
    a.overlay v.settings = a.beforeExtended v none := by
  have hclasses : (a.classTypes.map sortedDistinct).or (v.classTypes.map sortedDistinct) =
      (a.classTypes.or v.classTypes).map sortedDistinct := by
    cases a.classTypes <;> rfl
  have hkeywords : (v.readOnlyKeywords.getD true && !a.noReadOnly) =
      !(a.noReadOnly || v.readOnlyKeywords == some false) := by
    cases v.readOnlyKeywords with
    | none => cases a.noReadOnly <;> rfl
    | some keywords => cases keywords <;> cases a.noReadOnly <;> rfl
  unfold overlay FileValues.settings beforeExtended layered
  dsimp only
  rw [hclasses, hkeywords, Option.getD_or, Option.getD_or, Option.getD_or, Option.none_or]

theorem runOn_withCode_iff {v : FileValues} {s : Settings} :
    runOn (a.withCode (a.overlay v.settings)) tree = (.ok s, tree) ↔
      ∃ code, Option.Rel tree.Holds a.extensionCode code ∧ s = a.beforeExtended v code := by
  rw [overlay_settings]
  unfold withCode
  cases a.extensionCode with
  | none => simp [exists_rel_none, runOn_pure_iff]
  | some path =>
    have hcode : ∀ c, (a.beforeExtended v none).setExtensionCode c =
        a.beforeExtended v (some c) :=
      Settings.setExtensionCode_of_index?_eq_none rfl
    dsimp only
    rw [(readsOnly_readText path).ok_bind_iff, exists_rel_some]
    simp only [runOn_readText_iff, runOn_pure_iff, hcode]

theorem withExtendedClasses_beforeExtended (a : Arguments) (v : FileValues) (code : Option Text) :
    a.withExtendedClasses (a.beforeExtended v code) = a.layered v code := by
  unfold withExtendedClasses
  cases hextended : a.extendedClasses with
  | none => simp [beforeExtended, layered, hextended]
  | some names =>
    dsimp only
    rw [Settings.setExtendedClasses_of_index?_eq_none rfl]
    simp [beforeExtended, layered, hextended]

/-- **The settings of arguments.** -/
theorem runOn_settings_iff {s : Settings} :
    runOn a.settings tree = (.ok s, tree) ↔
      ∃ v code, a.FileGives tree v ∧ Option.Rel tree.Holds a.extensionCode code ∧
        s = a.layered v code := by
  unfold settings
  rw [a.readsOnly_baseSettings.ok_bind_iff]
  simp only [(a.readsOnly_withCode _).ok_bind_iff, runOn_baseSettings_iff, runOn_pure_iff]
  constructor
  · rintro ⟨_, ⟨v, hv, rfl⟩, _, hrun, rfl⟩
    obtain ⟨code, hcode, rfl⟩ := runOn_withCode_iff.mp hrun
    exact ⟨v, code, hv, hcode, a.withExtendedClasses_beforeExtended v code⟩
  · rintro ⟨v, code, hv, hcode, rfl⟩
    exact ⟨_, ⟨v, hv, rfl⟩, _, runOn_withCode_iff.mpr ⟨code, hcode, rfl⟩,
      (a.withExtendedClasses_beforeExtended v code).symm⟩

/-- **A failure of the settings file** is that of the settings, whatever the arguments are. -/
theorem failed_settings_of_baseSettings {f : Failure}
    (h : runOn a.baseSettings tree = (.error f, tree)) :
    runOn a.settings tree = (.error f, tree) := by
  unfold settings
  rw [runOn_bind, h]

theorem failed_baseSettings_of_config {f : Failure}
    (h : (runOn ({ config := a.config } : Arguments).settings tree).1 = .error f) :
    runOn a.baseSettings tree = (.error f, tree) := by
  obtain ⟨r, hr, -⟩ := a.readsOnly_baseSettings tree
  have hbase : runOn ({ config := a.config } : Arguments).baseSettings tree = (r, tree) := hr
  unfold settings at h
  rw [runOn_bind, hbase] at h
  rw [hr]
  cases r with
  | error f' => rw [Except.error.inj h]
  | ok s => cases h

/-- Two kinds of settings are the same in every field for which two kinds of arguments are. -/
structure Apart (a a' : Arguments) (s s' : Settings) : Prop where
  style : a.style = a'.style → s.style = s'.style
  classTypes : a.classTypes = a'.classTypes → s.classTypes = s'.classTypes
  dateType : a.dateType = a'.dateType → s.dateType = s'.dateType
  moduleName : a.moduleName = a'.moduleName → s.moduleName = s'.moduleName
  readOnlyKeywords : a.noReadOnly = a'.noReadOnly → s.readOnlyKeywords = s'.readOnlyKeywords
  extensionCode : a.extensionCode = a'.extensionCode → s.extensionCode = s'.extensionCode
  extendedClasses : a.extendedClasses = a'.extendedClasses → s.extendedClasses = s'.extendedClasses
  index? : s.index? = s'.index?

theorem apart_layered (a a' : Arguments) (v : FileValues) {code code' : Option Text}
    (hcode : a.extensionCode = a'.extensionCode → code = code') :
    Apart a a' (a.layered v code) (a'.layered v code') := by
  constructor
  · intro h
    simp only [layered, h]
  · intro h
    simp only [layered, h]
  · intro h
    simp only [layered, h]
  · intro h
    simp only [layered, h]
  · intro h
    simp only [layered, h]
  · intro h
    simp only [layered, hcode h]
  · intro h
    simp only [layered, h]
  · rfl

end CommandLine.Arguments

/-! ## All settings -/

/-- **Settings in layers.** There are settings exactly if the settings file can be read, is one and
gives values, and the file with the hand-written code that the arguments name can be read. Then
every setting is that of the arguments, or that of the settings file, or the default. What is wrong
with the settings file is told whatever else the arguments are, and no argument changes a setting
but its own. Nothing is done to the files. -/
theorem settings_layered (a : Arguments) (tree : FileTree) :
    (∀ s, (runOn a.settings tree).1 = .ok s ↔
      ∃ v code, a.FileGives tree v ∧ Option.Rel tree.Holds a.extensionCode code ∧
        s = a.layered v code) ∧
      (∀ f, (runOn ({ config := a.config } : Arguments).settings tree).1 = .error f →
        (runOn a.settings tree).1 = .error f) ∧
      (∀ a' s s', a'.config = a.config → (runOn a.settings tree).1 = .ok s →
        (runOn a'.settings tree).1 = .ok s' → a.Apart a' s s') ∧
      (runOn a.settings tree).2 = tree := by
  have hok : ∀ (b : Arguments) (s : Settings), (runOn b.settings tree).1 = .ok s ↔
      ∃ v code, b.FileGives tree v ∧ Option.Rel tree.Holds b.extensionCode code ∧
        s = b.layered v code := by
    intro b s
    obtain ⟨r, hr, -⟩ := b.readsOnly_settings tree
    rw [← Arguments.runOn_settings_iff, hr]
    simp
  refine ⟨hok a, fun f hf => ?_, fun a' s s' hconfig hs hs' => ?_, ?_⟩
  · rw [Arguments.failed_settings_of_baseSettings (Arguments.failed_baseSettings_of_config hf)]
  · obtain ⟨v, code, hv, hcode, rfl⟩ := (hok a s).mp hs
    obtain ⟨v', code', hv', hcode', rfl⟩ := (hok a' s').mp hs'
    obtain rfl := hv'.unique hconfig hv
    apply Arguments.apart_layered
    intro hpath
    rw [← hpath] at hcode'
    exact rel_unique (fun _ _ _ h h' => h.unique h') hcode hcode'
  · obtain ⟨r, hr, -⟩ := a.readsOnly_settings tree
    rw [hr]

/-! ### Arguments on a settings file -/

/-- A settings file that names a file beside it. -/
def workshopFile : Text :=
  ("\x7b\"typeStyle\":\"Class\",\"moduleName\":\"Api\"," : Text) ++
    "\"generateReadOnlyKeywords\":true,\"extensionCodeFile\":\"pet.ts\"," ++
    "\"extendedClasses\":[\"Pet\"]\x7d"

/-- A tree with the settings file away from the working directory, and with code beside it and
elsewhere. -/
def workshopTree : FileTree where
  entries := [(["conf"], .directory), (["conf", "s.json"], .file (Text.utf8 workshopFile)),
    (["conf", "pet.ts"], .file (Text.utf8 "class Pet \x7b\x7d")),
    (["dog.ts"], .file (Text.utf8 "class Dog \x7b\x7d")), (["home"], .directory)]
  workingDirectory := ["home"]

/-- The settings file by its absolute path. -/
def workshopArguments : Arguments where
  config := some "/conf/s.json"
  style := some .observableClass
  noReadOnly := true

set_option maxRecDepth 100000 in
theorem workshop_fileGives :
    workshopArguments.FileGives workshopTree
      { style := some .plainClass, moduleName := some "Api", readOnlyKeywords := some true
        extensionCode := some "class Pet \x7b\x7d", extendedClasses := some ["Pet"] } := by
  have hholds : workshopTree.Holds "/conf/s.json" workshopFile := by
    unfold FileTree.Holds
    cbv
  have hcode : workshopTree.Holds (Path.join (Path.directory "/conf/s.json") "pet.ts")
      "class Pet \x7b\x7d" := by
    unfold FileTree.Holds
    cbv
  have hfile : SettingsFile.ofText workshopFile =
      .ok { style := some "Class", moduleName := some "Api", readOnlyKeywords := some true
            extensionCodeFile := some "pet.ts", extendedClasses := some ["Pet"] } := by
    cbv
  refine ⟨workshopFile, _, hholds, hfile, ?_⟩
  exact ⟨.some (by cbv), rfl, .none, rfl, rfl, .some hcode, rfl⟩

set_option maxRecDepth 100000 in
/-- The arguments come first, then the settings file with the code beside it, which gives way to
that of the arguments. -/
theorem workshop_layered :
    (runOn workshopArguments.settings workshopTree).1 = .ok
        { style := .observableClass, moduleName := "Api", readOnlyKeywords := false
          extensionCode := "class Pet \x7b\x7d", extendedClasses := some ["Pet"] } ∧
      (runOn { workshopArguments with extensionCode := some "../dog.ts" }.settings workshopTree).1 =
        .ok
          { style := .observableClass, moduleName := "Api", readOnlyKeywords := false
            extensionCode := "class Dog \x7b\x7d", extendedClasses := some ["Pet"] } := by
  have hcode : workshopTree.Holds "../dog.ts" "class Dog \x7b\x7d" := by
    unfold FileTree.Holds
    cbv
  constructor
  · apply ((settings_layered _ _).1 _).mpr
    exact ⟨_, none, workshop_fileGives, .none, rfl⟩
  · apply ((settings_layered _ _).1 _).mpr
    exact ⟨_, some _, workshop_fileGives, .some hcode, rfl⟩

end SchemaTypes
