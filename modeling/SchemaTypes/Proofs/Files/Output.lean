import Mathlib
import SchemaTypes.CommandLine.Run
import SchemaTypes.Proofs.Files.Tree
import SchemaTypes.Proofs.Generation.Outcome

/-!
# What a failure leaves behind

Settings and schemas are only read. The file for the types is created when both have been read, and
before the schema is looked at: a schema that has no types leaves it empty.

* `runOn`: what comes of an action on the files of a tree, and the tree behind it.
* `ReadsOnly`: an action that only reads, and fails in certain ways alone.
* `runOn_writeDocument`: what writing types to a file does to a tree.
* **`failed_output`**: what is left of the files when a generation to a file fails.
-/

namespace SchemaTypes

variable {α β : Type}

/-! ## Actions on a tree -/

/-- What comes of an action on the files of a tree, and the tree behind it. -/
def runOn (x : ExceptT Failure (StateM FileTree) α) (tree : FileTree) :
    Except Failure α × FileTree :=
  Id.run (StateT.run x.run tree)

theorem runOn_pure (v : α) (tree : FileTree) : runOn (pure v) tree = (.ok v, tree) :=
  rfl

theorem runOn_ofExcept (r : Except Failure α) (tree : FileTree) :
    runOn (MonadExcept.ofExcept r) tree = (r, tree) := by
  cases r <;> rfl

theorem runOn_lift (x : StateM FileTree α) (tree : FileTree) :
    runOn (liftM x) tree = (.ok (x tree).1, (x tree).2) :=
  rfl

/-- **An action goes on** behind another one if that one did not fail. -/
theorem runOn_bind (x : ExceptT Failure (StateM FileTree) α)
    (f : α → ExceptT Failure (StateM FileTree) β) (tree : FileTree) :
    runOn (x >>= f) tree =
      match runOn x tree with
      | (.ok v, tree') => runOn (f v) tree'
      | (.error failure, tree') => (.error failure, tree') := by
  show Id.run (StateT.run (ExceptT.run (x >>= f)) tree) = _
  rw [ExceptT.run_bind, StateT.run_bind]
  unfold runOn
  cases hrun : StateT.run x.run tree with
  | mk r tree' => cases r <;> rfl

theorem failed_of_bind_pure {x : ExceptT Failure (StateM FileTree) α} {v : β}
    {tree tree' : FileTree} {f : Failure}
    (h : runOn (x >>= fun _ => pure v) tree = (.error f, tree')) :
    runOn x tree = (.error f, tree') := by
  rw [runOn_bind] at h
  cases hx : runOn x tree with
  | mk r tree₁ =>
    rw [hx] at h
    cases r with
    | ok _ => cases h
    | error f' =>
      obtain ⟨hf, rfl⟩ := Prod.mk.inj h
      rw [Except.error.inj hf]

/-! ## Actions that only read -/

/-- The action leaves every tree as it is, and fails in the given ways alone. -/
def ReadsOnly (P : Failure → Prop) (x : ExceptT Failure (StateM FileTree) α) : Prop :=
  ∀ tree, ∃ r, runOn x tree = (r, tree) ∧ ∀ f, r = .error f → P f

section Reading

variable {P : Failure → Prop}

theorem readsOnly_pure (v : α) : ReadsOnly P (pure v) :=
  fun tree => ⟨.ok v, runOn_pure v tree, nofun⟩

theorem readsOnly_ofExcept {r : Except Failure α} (h : ∀ f, r = .error f → P f) :
    ReadsOnly P (MonadExcept.ofExcept r) :=
  fun tree => ⟨r, runOn_ofExcept r tree, h⟩

theorem ReadsOnly.bind {x : ExceptT Failure (StateM FileTree) α}
    {f : α → ExceptT Failure (StateM FileTree) β} (hx : ReadsOnly P x)
    (hf : ∀ v, ReadsOnly P (f v)) : ReadsOnly P (x >>= f) := by
  intro tree
  obtain ⟨r, hr, hfails⟩ := hx tree
  rw [runOn_bind, hr]
  cases r with
  | error failure => exact ⟨.error failure, rfl, fun f h => hfails f (Except.error.inj h ▸ rfl)⟩
  | ok v => exact hf v tree

/-- **A failure behind an action that only reads** is that of the action, or that of what follows on
the same files. -/
theorem ReadsOnly.failed_bind {x : ExceptT Failure (StateM FileTree) α}
    {g : α → ExceptT Failure (StateM FileTree) β} (hx : ReadsOnly P x) {tree tree' : FileTree}
    {f : Failure} (h : runOn (x >>= g) tree = (.error f, tree')) :
    ((runOn x tree).1 = .error f ∧ P f ∧ tree' = tree) ∨
      ∃ v, (runOn x tree).1 = .ok v ∧ runOn (g v) tree = (.error f, tree') := by
  obtain ⟨r, hr, hfails⟩ := hx tree
  rw [runOn_bind, hr] at h
  rw [hr]
  cases r with
  | error f' =>
    obtain ⟨hf, rfl⟩ := Prod.mk.inj h
    obtain rfl := Except.error.inj hf
    exact .inl ⟨rfl, hfails _ rfl, rfl⟩
  | ok v => exact .inr ⟨v, rfl, h⟩

theorem ReadsOnly.mono {Q : Failure → Prop} {x : ExceptT Failure (StateM FileTree) α}
    (hx : ReadsOnly P x) (h : ∀ f, P f → Q f) : ReadsOnly Q x := by
  intro tree
  obtain ⟨r, hr, hfails⟩ := hx tree
  exact ⟨r, hr, fun f hf => h f (hfails f hf)⟩

end Reading

/-- The failure is the fault of a file. -/
def Failure.IsFile (f : Failure) : Prop :=
  ∃ fault, f = .file fault

theorem isFile_of_decodeText {bytes : Except FileFault (List UInt8)} {f : Failure}
    (h : decodeText bytes = .error f) : f.IsFile := by
  unfold decodeText at h
  split at h
  · exact ⟨_, (Except.error.inj h).symm⟩
  · split at h
    · cases h
    · exact ⟨_, (Except.error.inj h).symm⟩

theorem readsOnly_readText (path : Text) :
    ReadsOnly Failure.IsFile (readText (m := StateM FileTree) path) :=
  fun tree => ⟨decodeText (tree.read path), rfl, fun _ => isFile_of_decodeText⟩

theorem Text.ofUtf8?_utf8 (t : Text) : Text.ofUtf8? (Text.utf8 t) = some t := by
  have hencode : ByteArray.mk (Text.utf8 t).toArray = List.utf8Encode t :=
    ByteArray.ext List.data_toByteArray.symm
  unfold Text.ofUtf8?
  rw [hencode, List.utf8Decode?_utf8Encode]
  rfl

/-- **A file with the bytes of a text** is read as the text. -/
theorem runOn_readText {path t : Text} {tree : FileTree} (h : tree.read path = .ok (Text.utf8 t)) :
    runOn (readText path) tree = (.ok t, tree) := by
  show (decodeText (tree.read path), tree) = _
  rw [h]
  unfold decodeText
  dsimp only
  rw [Text.ofUtf8?_utf8]

/-! ## Reading settings and schemas -/

/-- The failure does not tell of a schema that has no types. -/
def Failure.IsReading (f : Failure) : Prop :=
  f ≠ .rootNotObject ∧ f ≠ .noTypes

theorem Failure.IsFile.isReading {f : Failure} (h : f.IsFile) : f.IsReading := by
  obtain ⟨fault, rfl⟩ := h
  exact ⟨nofun, nofun⟩

namespace SettingsFile

theorem isReading_of_ofText {t : Text} {f : Failure} (h : ofText t = .error f) :
    f.IsReading := by
  unfold ofText at h
  split at h <;> cases h
  exact ⟨nofun, nofun⟩

theorem isReading_of_style? {file : SettingsFile} {f : Failure} (h : file.style? = .error f) :
    f.IsReading := by
  unfold style? Style.parse at h
  split at h
  · split at h <;> cases h
    exact ⟨nofun, nofun⟩
  · cases h

theorem isReading_of_dateType? {file : SettingsFile} {f : Failure}
    (h : file.dateType? = .error f) : f.IsReading := by
  unfold dateType? DateType.parse at h
  split at h
  · split at h <;> cases h
    exact ⟨nofun, nofun⟩
  · cases h

theorem readsOnly_code (file : SettingsFile) (directory : Text) :
    ReadsOnly Failure.IsReading (file.code (m := StateM FileTree) directory) := by
  unfold code
  split
  · exact readsOnly_pure _
  · exact (readsOnly_readText _).mono fun _ h => h.isReading
  · exact readsOnly_pure _

/-- **A settings file is only read.** -/
theorem readsOnly_settings (file : SettingsFile) (directory : Text) :
    ReadsOnly Failure.IsReading (file.settings (m := StateM FileTree) directory) :=
  (readsOnly_ofExcept fun _ => isReading_of_style?).bind fun _ =>
    (readsOnly_ofExcept fun _ => isReading_of_dateType?).bind fun _ =>
      (file.readsOnly_code directory).bind fun _ => readsOnly_pure _

theorem readsOnly_load (path : Text) :
    ReadsOnly Failure.IsReading (load (m := StateM FileTree) path) :=
  ((readsOnly_readText path).mono fun _ h => h.isReading).bind fun _ =>
    readsOnly_ofExcept fun _ => isReading_of_ofText

end SettingsFile

namespace CommandLine.Arguments

variable (a : Arguments)

theorem readsOnly_baseSettings :
    ReadsOnly Failure.IsReading (a.baseSettings (m := StateM FileTree)) := by
  unfold baseSettings
  split
  · exact readsOnly_pure _
  · exact (SettingsFile.readsOnly_load _).bind fun file => file.readsOnly_settings _

theorem readsOnly_withCode (s : Settings) :
    ReadsOnly Failure.IsReading (a.withCode (m := StateM FileTree) s) := by
  unfold withCode
  split
  · exact readsOnly_pure _
  · exact ((readsOnly_readText _).mono fun _ h => h.isReading).bind fun _ => readsOnly_pure _

/-- **The files with the settings are only read.** -/
theorem readsOnly_settings : ReadsOnly Failure.IsReading (a.settings (m := StateM FileTree)) :=
  a.readsOnly_baseSettings.bind fun _ =>
    (a.readsOnly_withCode _).bind fun _ => readsOnly_pure _

theorem readsOnly_schema (incoming : List UInt8) :
    ReadsOnly Failure.IsFile (a.schema (m := StateM FileTree) (pure incoming)) := by
  unfold schema
  split
  · exact readsOnly_readText _
  · exact fun tree => ⟨decodeText (.ok incoming), rfl, fun _ => isFile_of_decodeText⟩

end CommandLine.Arguments

/-! ## Writing types -/

section Writing

variable {s : Settings} {schema output : Text} {tree tree' : FileTree}

/-- **Writing types to a file** does nothing if the file cannot be created. Otherwise the file holds
what was generated, whether there was a failure or not. -/
theorem runOn_writeDocument (s : Settings) (schema output : Text) (tree : FileTree) :
    let g := generate s schema {}
    (∃ fault, runOn (writeDocument s schema output) tree = (.error (.file fault), tree)) ∨
      ∃ tree', tree.Overwritten output g.output tree' ∧
        runOn (writeDocument s schema output) tree = (g.failure.elim (.ok ()) .error, tree') := by
  intro g
  unfold writeDocument
  rw [runOn_bind, runOn_lift]
  cases hcreate : tree.create output with
  | error fault =>
    have hrun : Files.create (m := StateM FileTree) output tree = (.error fault, tree) := by
      simp only [Files.create, hcreate]
    rw [hrun]
    exact .inl ⟨fault, rfl⟩
  | ok empty =>
    have hrun : Files.create (m := StateM FileTree) output tree = (.ok (), empty) := by
      simp only [Files.create, hcreate]
    rw [hrun]
    refine .inr ⟨empty.append output g.output, FileTree.overwritten_append hcreate g.output, ?_⟩
    dsimp only
    rw [runOn_bind, runOn_lift]
    cases hfailure : (generate s schema {}).failure <;> rfl

/-- A generation without a bound fails only with a text that is no schema, or that has no types. -/
theorem failure_generate_cases {f : Failure} (h : (generate s schema {}).failure = some f) :
    ((∃ fault, f = .json schema fault) ∨ f = .rootNotObject ∨ f = .noTypes) ∧
      (generate s schema {}).output = [] := by
  have hcases := Outline.ofText_eq s.dateType schema
  have hfailed : ∀ f', Outline.ofText s.dateType schema = .error f' →
      f' = f ∧ (generate s schema {}).output = [] := by
    intro f' hf'
    rw [generate_of_error hf'] at h ⊢
    exact ⟨Option.some.inj h, rfl⟩
  split at hcases
  · obtain ⟨rfl, houtput⟩ := hfailed _ hcases
    exact ⟨.inl ⟨_, rfl⟩, houtput⟩
  · split_ifs at hcases
    · obtain ⟨rfl, houtput⟩ := hfailed _ hcases
      exact ⟨.inr (.inl rfl), houtput⟩
    · obtain ⟨rfl, houtput⟩ := hfailed _ hcases
      exact ⟨.inr (.inr rfl), houtput⟩
    · obtain ⟨o, ho⟩ := hcases
      rw [failure_generate ho rfl] at h
      cases h

/-- **Writing types fails** when the file cannot be created, and nothing is changed, or when there
are no types, and the file is empty. -/
theorem failed_writeDocument {f : Failure}
    (h : runOn (writeDocument s schema output) tree = (.error f, tree')) :
    (f.IsFile ∧ tree' = tree) ∨
      (((∃ fault, f = .json schema fault) ∨ f = .rootNotObject ∨ f = .noTypes) ∧
        tree.Overwritten output [] tree') := by
  rcases runOn_writeDocument s schema output tree with ⟨fault, hrun⟩ | ⟨tree₁, hwritten, hrun⟩
  · rw [hrun] at h
    obtain ⟨hf, rfl⟩ := Prod.mk.inj h
    exact .inl ⟨⟨fault, (Except.error.inj hf).symm⟩, rfl⟩
  · rw [hrun] at h
    obtain ⟨hf, rfl⟩ := Prod.mk.inj h
    cases hfailure : (generate s schema {}).failure with
    | none =>
      rw [hfailure] at hf
      cases hf
    | some f' =>
      rw [hfailure] at hf
      obtain rfl : f' = f := Except.error.inj hf
      obtain ⟨hcases, houtput⟩ := failure_generate_cases hfailure
      rw [houtput] at hwritten
      exact .inr ⟨hcases, hwritten⟩

end Writing

/-! ## What is left -/

/-- **What is left of the files when a generation to a file fails.** A schema that has no types, be
it no schema at all, leaves the output empty, whatever it held, and every other entry as it was: the
output is created before the schema is looked at. All other failures change nothing: settings and
schemas that cannot be read, settings that are none, and an output that cannot be created. -/
theorem failed_output (tree tree' : FileTree) (output : Text) (f : Failure) :
    (∀ (s : Settings) (input : Text),
      runOn (generateFile s input output) tree = (.error f, tree') →
        match f with
        | .rootNotObject | .noTypes | .json _ _ => tree.Overwritten output [] tree'
        | _ => tree' = tree) ∧
    ∀ (a : CommandLine.Arguments) (incoming : List UInt8), a.output = some output →
      runOn (a.generate (pure incoming)) tree = (.error f, tree') →
        match f, (runOn a.settings tree).1 with
        | .rootNotObject, _ | .noTypes, _ | .json _ _, .ok _ => tree.Overwritten output [] tree'
        | _, _ => tree' = tree := by
  constructor
  · intro s input h
    rcases (readsOnly_readText input).failed_bind h with ⟨-, ⟨fault, rfl⟩, rfl⟩ | ⟨schema, -, h⟩
    · rfl
    rcases failed_writeDocument h with ⟨⟨fault, rfl⟩, rfl⟩ | ⟨hcases, hwritten⟩
    · rfl
    · rcases hcases with ⟨fault, rfl⟩ | rfl | rfl <;> exact hwritten
  · intro a incoming houtput h
    rcases a.readsOnly_settings.failed_bind h with
      ⟨hsettings, ⟨hroot, hnone⟩, rfl⟩ | ⟨s, hsettings, h⟩ <;> rw [hsettings]
    · cases f with
      | rootNotObject => exact absurd rfl hroot
      | noTypes => exact absurd rfl hnone
      | _ => rfl
    rcases (a.readsOnly_schema incoming).failed_bind h with
      ⟨-, ⟨fault, rfl⟩, rfl⟩ | ⟨schema, -, h⟩
    · rfl
    dsimp only at h
    rw [houtput] at h
    rcases failed_writeDocument (failed_of_bind_pure h) with
      ⟨⟨fault, rfl⟩, rfl⟩ | ⟨hcases, hwritten⟩
    · rfl
    · rcases hcases with ⟨fault, rfl⟩ | rfl | rfl <;> exact hwritten

/-! ### A document from before -/

/-- A schema that describes no objects. -/
def stringSchema : Text := "\x7b\"type\":\"string\"\x7d"

/-- A directory with a schema that describes no objects, and with a document from before. -/
def staleTree : FileTree where
  entries := [(["docs"], .directory), (["docs", "s.json"], .file (Text.utf8 stringSchema)),
    (["docs", "out.ts"], .file (Text.utf8 "old"))]
  workingDirectory := ["docs"]

/-- The directory without what was in the document. -/
def emptiedTree : FileTree where
  entries := [(["docs"], .directory), (["docs", "s.json"], .file (Text.utf8 stringSchema)),
    (["docs", "out.ts"], .file [])]
  workingDirectory := ["docs"]

/-- The document by its absolute path, and the schema by a path over the root. -/
def staleArguments : CommandLine.Arguments where
  input := some "../../docs/s.json"
  output := some "/docs/out.ts"

set_option maxRecDepth 100000 in
theorem runOn_staleTree :
    runOn (generateFile {} "s.json" "out.ts") staleTree = (.error .rootNotObject, emptiedTree) ∧
      runOn (staleArguments.generate (pure [])) staleTree =
        (.error .rootNotObject, emptiedTree) := by
  have hread : staleTree.read "s.json" = .ok (Text.utf8 stringSchema) := by
    cbv
  have hread' : staleTree.read "../../docs/s.json" = .ok (Text.utf8 stringSchema) := by
    cbv
  have hwrite : runOn (writeDocument {} stringSchema "out.ts") staleTree =
      (.error .rootNotObject, emptiedTree) := by
    cbv
  have hwrite' : runOn (writeDocument {} stringSchema "/docs/out.ts") staleTree =
      (.error .rootNotObject, emptiedTree) := by
    cbv
  have hsettings : runOn staleArguments.settings staleTree = (.ok {}, staleTree) := rfl
  have hschema : runOn (staleArguments.schema (pure [])) staleTree =
      (.ok stringSchema, staleTree) := runOn_readText hread'
  constructor
  · unfold generateFile
    rw [runOn_bind, runOn_readText hread]
    exact hwrite
  · unfold CommandLine.Arguments.generate
    rw [runOn_bind, hsettings]
    dsimp only
    rw [runOn_bind, hschema]
    dsimp only [staleArguments]
    rw [runOn_bind, hwrite']

/-- The document is left empty, whichever way the types are asked for. -/
theorem failed_output_staleTree :
    (runOn (generateFile {} "s.json" "out.ts") staleTree = (.error .rootNotObject, emptiedTree) ∧
        staleTree.Overwritten "out.ts" [] emptiedTree) ∧
      staleArguments.output = some ("/docs/out.ts" : Text) ∧
        runOn (staleArguments.generate (pure [])) staleTree =
          (.error .rootNotObject, emptiedTree) ∧
        staleTree.Overwritten "/docs/out.ts" [] emptiedTree := by
  obtain ⟨hfile, harguments⟩ := runOn_staleTree
  obtain ⟨hleft, -⟩ := failed_output staleTree emptiedTree "out.ts" .rootNotObject
  obtain ⟨-, hleft'⟩ := failed_output staleTree emptiedTree "/docs/out.ts" .rootNotObject
  exact ⟨⟨hfile, hleft {} "s.json" hfile⟩, rfl, harguments,
    hleft' staleArguments [] rfl harguments⟩

/-- What it held is lost. -/
theorem old_document_lost :
    runOn (generateFile {} "s.json" "out.ts") staleTree = (.error .rootNotObject, emptiedTree) ∧
      runOn (staleArguments.generate (pure [])) staleTree =
        (.error .rootNotObject, emptiedTree) ∧
      staleTree.entry? ["docs", "out.ts"] = some (.file (Text.utf8 "old")) ∧
      emptiedTree.entry? ["docs", "out.ts"] = some (.file []) :=
  ⟨runOn_staleTree.1, runOn_staleTree.2, by cbv, by cbv⟩

end SchemaTypes
