import Mathlib
import SchemaTypes.Proofs.Generation.Lines

/-!
# Modules

A document inside a module is the document outside of it with the lines of its body moved to the
right. Nothing is lost by that: the lines can be moved back.

* `indented`, `outdented`: a text with its lines moved to the right, and back.
* `outdented_indented`: that they come back.
* **`generate_in_module`**: a generation with a module and without.
-/

namespace SchemaTypes

open Text (LineSafe IsLine)

/-! ## Moving lines -/

/-- A line moved to the right by four spaces, unless it is empty. -/
def indentLine (l : Text) : Text :=
  if l = [] then [] else "    " ++ l

/-- A line moved back to the left by four characters, unless it is empty. -/
def outdentLine (l : Text) : Text :=
  if l = [] then [] else l.drop 4

/-- The lines of a text moved to the right, each with a line feed behind it. -/
def indented (t : Text) : Text :=
  unlines ((Text.lines t).map indentLine)

/-- The lines of a text moved to the left, with line feeds between them. -/
def outdented (t : Text) : Text :=
  Text.join ['\n'] ((Text.lines t).map outdentLine)

theorem outdentLine_indentLine (l : Text) : outdentLine (indentLine l) = l := by
  unfold outdentLine indentLine
  rw [Text.ofString_eq]
  by_cases hl : l = []
  · simp [hl]
  · simp [hl]

theorem isLine_indentLine {l : Text} (h : IsLine l) : IsLine (indentLine l) := by
  unfold indentLine
  split_ifs with hl
  · exact ⟨List.not_mem_nil, nofun⟩
  · rw [Text.ofString_eq]
    refine ⟨fun hn => ?_, fun hr => h.last ?_⟩
    · rcases List.mem_append.mp hn with hn | hn
      · exact absurd hn (by decide)
      · exact h.no_newline hn
    · rwa [List.getLast?_append_of_ne_nil _ hl] at hr

/-- **Lines that are moved to the right come back** if no carriage return goes with a line feed and
none ends the text. -/
theorem outdented_indented {t : Text} (h : LineSafe t) (hlast : t.getLast? ≠ some '\n') :
    outdented (indented t) = t := by
  have hlines : ∀ l ∈ (Text.lines t).map indentLine, IsLine l := by
    intro l hl
    obtain ⟨m, hm, rfl⟩ := List.mem_map.mp hl
    exact isLine_indentLine (h.isLine_of_mem_lines hm)
  have hback : (outdentLine ∘ indentLine) = id := funext outdentLine_indentLine
  unfold outdented indented
  rw [Text.lines_unlines hlines, List.map_map, hback, List.map_id, Text.join_lines h hlast]

/-! ## Documents -/

/-- The header and the imports, if there are any. -/
def preamble (imports : Text) : Text :=
  headerLine ++ ['\n', '\n'] ++ if imports = [] then [] else imports ++ ['\n', '\n']

theorem unlines_preambleLines (index : ExtensionIndex) :
    unlines (preambleLines index) = preamble index.importCode := by
  unfold preambleLines preamble
  cases index.importCode <;> simp

theorem documentText_eq (s : Settings) (index : ExtensionIndex) (o : Outline) :
    documentText s index o =
      if s.moduleName = [] then preamble index.importCode ++ body s index o ++ ['\n']
      else preamble index.importCode ++ "module " ++ s.moduleName ++ " \x7b\n" ++
        indented (body s index o) ++ "\x7d\n" := by
  have hline : moduleLine = indentLine := by
    funext l
    unfold moduleLine indentLine
    cases l <;> rfl
  unfold documentText document moduleLines
  rw [unlines_append, unlines_preambleLines]
  by_cases hname : s.moduleName = []
  · simp [hname]
  · have hempty : s.moduleName.isEmpty = false := by simpa using hname
    rw [hempty, if_neg hname, hline]
    simp [indented, Text.ofString_eq]

/-- **Generation with a module and without.** With a module of any name a generation fails in the
same way as without or does not fail either. If it does not, there are a preamble, which is the
header with the imports, and a body, the same for all names: without a module the preamble and the
body are written, and with one the preamble, a line that opens the module, the lines of the body,
moved to the right, and a line that closes it. In the body no carriage return stands before a line
feed, so that it is what the lines make when they are moved back. -/
theorem generate_in_module {s : Settings} (hs : s.Coherent) (schema : Text) :
    let inside := fun name => generate { s with moduleName := name } schema {}
    (∀ name, (inside name).failure = (inside []).failure) ∧
      ((inside []).failure = none → ∃ preamble body,
        preamble = headerLine ++ ['\n', '\n'] ++
          (if s.freshIndex.importCode = [] then [] else
            s.freshIndex.importCode ++ ['\n', '\n']) ∧
        (inside []).output = Text.utf8 (preamble ++ body ++ ['\n']) ∧
        (∀ name, name ≠ [] → (inside name).output =
          Text.utf8 (preamble ++ "module " ++ name ++ " \x7b\n" ++
            (Text.lines body).flatMap (fun l => indentLine l ++ ['\n']) ++ "\x7d\n")) ∧
        ¬['\r', '\n'] <:+: body ∧
        Text.join ['\n'] ((Text.lines (indented body)).map outdentLine) = body) := by
  intro inside
  cases ho : Outline.ofText s.dateType schema with
  | error f =>
    have hinside : ∀ name, (inside name).failure = some f := fun name => by
      show (generate { s with moduleName := name } schema {}).failure = _
      unfold generate
      rw [ho]
    refine ⟨fun name => by rw [hinside, hinside], fun h => ?_⟩
    rw [hinside] at h
    exact absurd h nofun
  | ok o =>
    have hinside : ∀ name, (inside name).failure = none := fun name =>
      failure_generate (s := { s with moduleName := name }) ho rfl
    have houtput : ∀ name, (inside name).output =
        Text.utf8 (documentText { s with moduleName := name } s.index o) := by
      intro name
      obtain ⟨o', ho', hout⟩ := output_of_failure_eq_none (hinside name)
      obtain rfl : o = o' := Except.ok.inj (ho.symm.trans ho')
      exact hout
    have hsafe := lineSafe_body hs ho
    have hlast : (body s s.index o).getLast? ≠ some '\n' := fun hl =>
      absurd (Text.isBlank_getLast?_trimEnd hl) (by decide)
    refine ⟨fun name => by rw [hinside, hinside], fun _ =>
      ⟨preamble s.index.importCode, body s s.index o, ?_, ?_, fun name hname => ?_,
        hsafe.not_infix, outdented_indented hsafe hlast⟩⟩
    · rw [hs.index_eq]
      rfl
    · rw [houtput, documentText_eq, if_pos rfl]
      rfl
    · rw [houtput, documentText_eq, if_neg hname]
      simp only [indented, unlines, List.flatMap_map]
      rfl

/-! ## A document with carriage returns in its sources -/

/-- Pets with a remark of two lines, which a carriage return and a line feed separate. -/
def remarkSchema : Text :=
  ("\x7b\"type\":\"object\",\"title\":\"Pet\",\"description\":\"Small\\r\\nor big.\"," : Text) ++
    "\"properties\":\x7b\"a\":\x7b\"type\":\"string\"\x7d\x7d\x7d"

/-- An import and an extended class, in lines that end in a carriage return and a line feed. -/
def remarkSettings : Settings :=
  { extensionCode :=
      "import 'tag';\r\nclass Pet extends PetBase \x7b\r\n\r\n  tag\r\n\x7d\r\n"
    extendedClasses := some [("Pet" : Text)] }

set_option maxRecDepth 100000 in
/-- The document of the pets in a module is the one without, moved to the right. -/
theorem remark_in_module :
    remarkSettings.Coherent ∧ remarkSettings.freshIndex.importCode = ("import 'tag';" : Text) ∧
      (generate { remarkSettings with moduleName := "Shop" } remarkSchema {}).failure = none ∧
      ∃ preamble body, preamble = headerLine ++ ['\n', '\n'] ++ "import 'tag';" ++ ['\n', '\n'] ∧
        (generate { remarkSettings with moduleName := [] } remarkSchema {}).output =
          Text.utf8 (preamble ++ body ++ ['\n']) ∧
        (generate { remarkSettings with moduleName := "Shop" } remarkSchema {}).output =
          Text.utf8 (preamble ++ "module " ++ "Shop" ++ " \x7b\n" ++
            (Text.lines body).flatMap (fun l => indentLine l ++ ['\n']) ++ "\x7d\n") ∧
        Text.join ['\n'] ((Text.lines (indented body)).map outdentLine) = body := by
  have hnames : (Outline.ofText .date remarkSchema).map
      (fun o => o.types.map TypeDeclaration.name) = .ok [("Pet" : Text)] := by
    cbv
  have himports : remarkSettings.freshIndex.importCode = ("import 'tag';" : Text) := by
    cbv
  obtain ⟨o, ho, _⟩ := exists_of_map_eq_ok hnames
  have hcoherent : remarkSettings.Coherent := .of_index?_eq_none rfl
  obtain ⟨hfailure, hdocuments⟩ := generate_in_module hcoherent remarkSchema
  have hgen : (generate { remarkSettings with moduleName := [] } remarkSchema {}).failure = none :=
    failure_generate ho rfl
  obtain ⟨preamble, body, hpreamble, hwithout, hwith, _, hback⟩ := hdocuments hgen
  refine ⟨hcoherent, himports, (hfailure _).trans hgen, preamble, body, ?_, hwithout,
    hwith _ (by cbv; simp), hback⟩
  rw [hpreamble, himports, if_neg (by cbv; simp)]
  simp [List.append_assoc]

end SchemaTypes
