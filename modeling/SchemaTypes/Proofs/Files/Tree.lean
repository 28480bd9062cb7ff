import Mathlib.Data.List.Induction
import Mathlib.Tactic.SplitIfs
import SchemaTypes.Files.Tree

/-!
# Changing a file of a tree

A file can be made empty and be added to without a change to any other entry of the tree, and the
path that leads to it leads there still. Paths begin at the root or in the working directory.

* `entry?_setEntry_self`, `entry?_setEntry_of_ne`: an entry is put at its names and nowhere else.
* `step_eq_ok_iff`, `target_eq_ok_iff`: what it takes to go a step, and to create a file at the end
  of a path.
* `target_setEntry`: a path leads where it led when there is a file at its end.
* `FileTree.Rooted`: whatever is there is in a directory.
* **`Rooted.read_absolutePath`**: every file is read at its absolute path, from every directory.
* `FileTree.Overwritten`: a tree after one of its files was written anew.
* **`overwritten_append`**: creating a file and putting bytes at its end does just that.
* `Rooted.overwritten`: whatever is there is then in a directory still.
-/

namespace SchemaTypes.FileTree

/-! ## Pieces of a path -/

theorem pieces_append {separator : Char} {t u p : Text} {ps : List Text} (h : separator ∉ t)
    (hu : Text.pieces separator u = p :: ps) :
    Text.pieces separator (t ++ u) = (t ++ p) :: ps := by
  induction t with
  | nil => exact hu
  | cons c t ih =>
    obtain ⟨hc, ht⟩ := not_or.mp (List.mem_cons.not.mp h)
    rw [List.cons_append, Text.pieces, if_neg (Ne.symm hc), ih ht]
    rfl

theorem notMem_of_mem_pieces {separator : Char} {t p : Text} (h : p ∈ Text.pieces separator t) :
    separator ∉ p := by
  induction t generalizing p with
  | nil => exact List.mem_singleton.mp h ▸ List.not_mem_nil
  | cons c t ih =>
    rw [Text.pieces] at h
    split_ifs at h with hc
    · rcases List.mem_cons.mp h with rfl | h
      · exact List.not_mem_nil
      · exact ih h
    · split at h
      · rw [List.mem_singleton.mp h]
        exact fun hmem => hc (List.mem_singleton.mp hmem).symm
      · next q qs hpieces =>
        rcases List.mem_cons.mp h with rfl | h
        · have hq : separator ∉ q := ih (hpieces ▸ List.mem_cons_self)
          exact List.mem_cons.not.mpr (not_or.mpr ⟨Ne.symm hc, hq⟩)
        · exact ih (hpieces ▸ List.mem_cons_of_mem q h)

/-! ## Entries -/

section Entries

variable {tree : FileTree} {names other : List Text} {e : Entry}

theorem find?_replaced_self {l : List (List Text × Entry)}
    (h : (l.any fun f => f.1 = names) = true) :
    (l.map fun f => if f.1 = names then (names, e) else f).find? (fun f => f.1 = names) =
      some (names, e) := by
  induction l with
  | nil => exact absurd h Bool.false_ne_true
  | cons f l ih =>
    rw [List.map_cons]
    by_cases hf : f.1 = names
    · exact if_pos hf ▸ List.find?_cons_of_pos (by simp)
    · rw [if_neg hf, List.find?_cons_of_neg (by simpa using hf)]
      exact ih (by simpa [hf] using h)

theorem find?_replaced_of_ne (h : other ≠ names) (l : List (List Text × Entry)) :
    (l.map fun f => if f.1 = names then (names, e) else f).find? (fun f => f.1 = other) =
      l.find? fun f => f.1 = other := by
  induction l with
  | nil => rfl
  | cons f l ih =>
    rw [List.map_cons, List.find?_cons, List.find?_cons, ih]
    by_cases hf : f.1 = names
    · have hother : ¬f.1 = other := fun hf' => h (hf'.symm.trans hf)
      rw [if_pos hf, decide_eq_false hother, decide_eq_false (Ne.symm h)]
    · rw [if_neg hf]

theorem entry?_setEntry_self (h : names ≠ []) :
    FileTree.entry? (tree.setEntry names e) names = some e := by
  unfold entry? setEntry
  dsimp only
  rw [if_neg h]
  split_ifs with hany
  · rw [find?_replaced_self hany]
    rfl
  · have hnone : tree.entries.find? (fun f => f.1 = names) = none := by
      refine List.find?_eq_none.mpr fun f hf hname => hany ?_
      exact List.any_eq_true.mpr ⟨f, hf, hname⟩
    rw [List.find?_append, hnone, Option.none_or, List.find?_cons_of_pos (by simp)]
    rfl

theorem entry?_setEntry_of_ne (h : other ≠ names) :
    FileTree.entry? (tree.setEntry names e) other = tree.entry? other := by
  unfold entry? setEntry
  dsimp only
  split_ifs with hroot hany
  · rfl
  · rw [find?_replaced_of_ne h]
  · rw [List.find?_append, List.find?_cons_of_neg (by simpa using Ne.symm h), List.find?_nil,
      Option.or_none]

end Entries

/-! ## Paths -/

section Paths

variable {tree : FileTree} {names : List Text} {bytes : List UInt8}

theorem entry?_setEntry_of_directory (h : tree.entry? names ≠ some .directory) {other : List Text}
    (hother : tree.entry? other = some .directory) :
    FileTree.entry? (tree.setEntry names (.file bytes)) other = some .directory := by
  have hne : other ≠ names := fun heq => h (heq ▸ hother)
  rw [entry?_setEntry_of_ne hne, hother]

theorem isSome_entry?_setEntry (hnames : names ≠ []) {other : List Text}
    (h : (tree.entry? other).isSome = true) {e : Entry} :
    (FileTree.entry? (tree.setEntry names e) other).isSome = true := by
  by_cases hother : other = names
  · rw [hother, entry?_setEntry_self hnames]
    rfl
  · rwa [entry?_setEntry_of_ne hother]

theorem enter_eq_ok_iff {above : List Text} :
    tree.enter names = .ok above ↔ tree.entry? names = some .directory ∧ names = above := by
  unfold enter
  split
  · next h => simp [h]
  · next h => simp [h]
  · next h => simp [h]

/-- **What it takes to go a step**: it starts in a directory, and something is where it leads. -/
theorem step_eq_ok_iff {name : Text} {next : List Text} :
    tree.step names name = .ok next ↔
      tree.entry? names = some .directory ∧
        (tree.entry? (Path.next names name)).isSome = true ∧ Path.next names name = next := by
  unfold step
  constructor
  · intro h
    cases henter : tree.enter names with
    | error fault =>
      rw [henter] at h
      cases h
    | ok above =>
      obtain ⟨hdirectory, rfl⟩ := enter_eq_ok_iff.mp henter
      rw [henter] at h
      simp only [bind, Except.bind, pure, Except.pure, throw, throwThe, MonadExceptOf.throw] at h
      split_ifs at h with hthere
      exact ⟨hdirectory, hthere, Except.ok.inj h⟩
  · rintro ⟨hdirectory, hthere, rfl⟩
    rw [enter_eq_ok_iff.mpr ⟨hdirectory, rfl⟩]
    exact if_pos hthere

/-- **A step is the same** when a file is put where there is no directory. -/
theorem step_setEntry (hnames : names ≠ []) (h : tree.entry? names ≠ some .directory)
    {other next : List Text} {name : Text} (hstep : tree.step other name = .ok next) :
    (tree.setEntry names (.file bytes)).step other name = .ok next := by
  obtain ⟨hdirectory, hthere, rfl⟩ := step_eq_ok_iff.mp hstep
  exact step_eq_ok_iff.mpr ⟨entry?_setEntry_of_directory h hdirectory,
    isSome_entry?_setEntry hnames hthere, rfl⟩

theorem walk_cons_eq_ok_iff {name : Text} {steps last : List Text} :
    tree.walk names (name :: steps) = .ok last ↔
      ∃ next, tree.step names name = .ok next ∧ tree.walk next steps = .ok last := by
  unfold walk
  rw [List.foldlM_cons]
  cases tree.step names name with
  | error fault => simp [bind, Except.bind]
  | ok next => simp [bind, Except.bind]

theorem walk_setEntry (hnames : names ≠ []) (h : tree.entry? names ≠ some .directory)
    {steps other last : List Text} (hwalk : tree.walk other steps = .ok last) :
    (tree.setEntry names (.file bytes)).walk other steps = .ok last := by
  induction steps generalizing other with
  | nil => exact hwalk
  | cons name steps ih =>
    obtain ⟨next, hstep, hwalk⟩ := walk_cons_eq_ok_iff.mp hwalk
    exact walk_cons_eq_ok_iff.mpr ⟨next, step_setEntry hnames h hstep, ih hwalk⟩

/-- **What it takes to create a file** at the end of a path: the way is there, and it ends in a
directory, in which the last step does not name a directory. -/
theorem target_eq_ok_iff {path : Text} :
    tree.target path = .ok names ↔
      path.isEmpty = false ∧ ∃ before last above,
        (Text.pieces '/' path).filter (!·.isEmpty) = before ++ [last] ∧
        tree.walk (tree.start path) before = .ok above ∧
        tree.entry? above = some .directory ∧ namesDirectory path last = false ∧
        tree.entry? (above ++ [last]) ≠ some .directory ∧ names = above ++ [last] := by
  constructor
  · intro h
    unfold target at h
    split_ifs at h with hempty
    split at h
    · cases h
    · next last before hsteps =>
      cases hwalk : tree.walk (tree.start path) before.reverse with
      | error fault =>
        rw [hwalk] at h
        cases h
      | ok above =>
        rw [hwalk] at h
        cases henter : tree.enter above with
        | error fault =>
          simp only [bind, Except.bind, henter] at h
          cases h
        | ok above' =>
          obtain ⟨hdirectory, rfl⟩ := enter_eq_ok_iff.mp henter
          simp only [bind, Except.bind, henter, pure, Except.pure, throw, throwThe,
            MonadExceptOf.throw] at h
          split_ifs at h with hnames hentry
          obtain rfl := Except.ok.inj h
          have hsteps := List.reverse_eq_iff.mp hsteps
          rw [List.reverse_cons] at hsteps
          exact ⟨eq_false_of_ne_true hempty, _, last, above, hsteps, hwalk, hdirectory,
            eq_false_of_ne_true hnames, hentry, rfl⟩
  · rintro ⟨hempty, before, last, above, hsteps, hwalk, hdirectory, hnames, hentry, rfl⟩
    have henter : tree.enter above = .ok above := enter_eq_ok_iff.mpr ⟨hdirectory, rfl⟩
    unfold target
    rw [hempty, if_neg Bool.false_ne_true, hsteps, List.reverse_append, List.reverse_singleton,
      List.singleton_append]
    dsimp only
    rw [List.reverse_reverse, hwalk]
    simp only [bind, Except.bind, henter, hnames, hentry, Bool.false_eq_true, if_false]
    rfl

/-- **A path leads where it led** when there is a file at its end. -/
theorem target_setEntry {path : Text} (h : tree.target path = .ok names) :
    (tree.setEntry names (.file bytes)).target path = .ok names := by
  obtain ⟨hempty, before, last, above, hsteps, hwalk, hdirectory, hlast, hentry, rfl⟩ :=
    target_eq_ok_iff.mp h
  have hnames : above ++ [last] ≠ [] := List.concat_ne_nil last above
  refine target_eq_ok_iff.mpr ⟨hempty, before, last, above, hsteps,
    walk_setEntry hnames hentry hwalk, entry?_setEntry_of_directory hentry hdirectory, hlast, ?_,
    rfl⟩
  rw [entry?_setEntry_self hnames]
  exact nofun

theorem ne_nil_of_target {path : Text} (h : tree.target path = .ok names) : names ≠ [] := by
  obtain ⟨-, -, last, above, -, -, -, -, -, rfl⟩ := target_eq_ok_iff.mp h
  exact List.concat_ne_nil last above

end Paths

/-! ## Absolute paths -/

section Absolute

variable {tree : FileTree} {names above : List Text} {bytes : List UInt8}

/-- **An absolute path leads to the same file** from every directory. -/
theorem read_of_isAbsolute {path : Text} (h : Path.isAbsolute path = true)
    (directory : List Text) :
    FileTree.read { tree with workingDirectory := directory } path = tree.read path := by
  have hstart : FileTree.start { tree with workingDirectory := directory } path =
      tree.start path := by
    unfold start
    rw [if_pos h, if_pos h]
  unfold read
  rw [hstart]
  rfl

/-- A name by which a path goes down. -/
structure IsName (name : Text) : Prop where
  ne_nil : name ≠ []
  ne_dot : name ≠ ['.']
  ne_dots : name ≠ ['.', '.']
  slash_notMem : '/' ∉ name

theorem IsName.next_eq {name : Text} (h : IsName name) (names : List Text) :
    Path.next names name = names ++ [name] := by
  unfold Path.next
  rw [if_neg (not_or.mpr ⟨h.ne_nil, h.ne_dot⟩), if_neg h.ne_dots]

theorem isName_of_filter_pieces {path last : Text} {before : List Text}
    (hsteps : (Text.pieces '/' path).filter (!·.isEmpty) = before ++ [last])
    (hlast : namesDirectory path last = false) : IsName last := by
  have hmem : last ∈ (Text.pieces '/' path).filter (!·.isEmpty) :=
    hsteps ▸ List.mem_append_right before List.mem_cons_self
  obtain ⟨hpiece, hfull⟩ := List.mem_filter.mp hmem
  unfold namesDirectory at hlast
  simp only [Bool.or_eq_false_iff, decide_eq_false_iff_not] at hlast
  exact ⟨by simpa using hfull, hlast.1.2, hlast.2, notMem_of_mem_pieces hpiece⟩

/-- **Whatever is there has a name,** and is in a directory. -/
def Rooted (tree : FileTree) : Prop :=
  ∀ above name, (tree.entry? (above ++ [name])).isSome = true →
    tree.entry? above = some .directory ∧ IsName name

theorem Rooted.isName_of_mem (h : tree.Rooted) (hnames : (tree.entry? names).isSome = true)
    {name : Text} (hname : name ∈ names) : IsName name := by
  induction names using List.reverseRecOn with
  | nil => exact absurd hname List.not_mem_nil
  | append_singleton above last ih =>
    obtain ⟨habove, hlast⟩ := h above last hnames
    rcases List.mem_append.mp hname with hname | hname
    · exact ih (habove ▸ rfl) hname
    · rwa [List.mem_singleton.mp hname]

theorem Rooted.walk_eq (h : tree.Rooted) (hnames : (tree.entry? names).isSome = true) :
    tree.walk [] names = .ok names := by
  induction names using List.reverseRecOn with
  | nil => rfl
  | append_singleton above last ih =>
    obtain ⟨habove, hlast⟩ := h above last hnames
    have hstep : tree.step above last = .ok (above ++ [last]) :=
      step_eq_ok_iff.mpr ⟨habove, (hlast.next_eq above).symm ▸ hnames, hlast.next_eq above⟩
    have hwalk : tree.walk [] above = .ok above := ih (habove ▸ rfl)
    unfold walk at hwalk ⊢
    rw [List.foldlM_append, hwalk]
    show (tree.step above last >>= pure) = _
    rw [hstep]
    rfl

/-- The path from the root along some names. -/
def absolutePath (names : List Text) : Text :=
  names.flatMap ('/' :: ·)

theorem isAbsolute_absolutePath (hnames : names ≠ []) :
    Path.isAbsolute (absolutePath names) = true := by
  cases names with
  | nil => exact absurd rfl hnames
  | cons name names => rfl

theorem pieces_absolutePath (h : ∀ name ∈ names, '/' ∉ name) :
    Text.pieces '/' (absolutePath names) = [] :: names := by
  induction names with
  | nil => rfl
  | cons name names ih =>
    obtain ⟨hname, hnames⟩ := List.forall_mem_cons.mp h
    show Text.pieces '/' ('/' :: (name ++ absolutePath names)) = _
    rw [Text.pieces, if_pos rfl, pieces_append hname (ih hnames), List.append_nil]

theorem Rooted.walk_absolutePath (h : tree.Rooted) (hnames : names ≠ [])
    (hthere : (tree.entry? names).isSome = true) :
    tree.walk (tree.start (absolutePath names)) (Text.pieces '/' (absolutePath names)) =
      .ok names := by
  have hpieces : Text.pieces '/' (absolutePath names) = [] :: names :=
    pieces_absolutePath fun name hname => (h.isName_of_mem hthere hname).slash_notMem
  -- nothing stands before the first slash, and that step stays at the root
  have hroot : tree.step [] [] = .ok [] := step_eq_ok_iff.mpr ⟨rfl, rfl, rfl⟩
  unfold start
  rw [if_pos (isAbsolute_absolutePath hnames), hpieces]
  exact walk_cons_eq_ok_iff.mpr ⟨[], hroot, h.walk_eq hthere⟩

/-- **Every file is read at its absolute path.** -/
theorem Rooted.read_absolutePath (h : tree.Rooted)
    (hfile : tree.entry? names = some (.file bytes)) :
    tree.read (absolutePath names) = .ok bytes := by
  have hnames : names ≠ [] := by
    rintro rfl
    cases hfile
  have hempty : (absolutePath names).isEmpty = false := by
    cases names with
    | nil => exact absurd rfl hnames
    | cons name names => rfl
  unfold read
  rw [hempty, if_neg Bool.false_ne_true, h.walk_absolutePath hnames (hfile ▸ rfl)]
  simp only [bind, Except.bind, hfile]
  rfl

end Absolute

/-! ## Files written anew -/

/-- The second tree is the first one with a file at the end of the path that holds the bytes. -/
def Overwritten (tree : FileTree) (path : Text) (bytes : List UInt8) (tree' : FileTree) : Prop :=
  tree'.workingDirectory = tree.workingDirectory ∧
    ∃ names, tree.target path = .ok names ∧ tree'.entry? names = some (.file bytes) ∧
      ∀ other, other ≠ names → tree'.entry? other = tree.entry? other

/-- **A file that is created, and bytes put at its end,** are all that changes. -/
theorem overwritten_append {tree tree' : FileTree} {path : Text}
    (h : tree.create path = .ok tree') (bytes : List UInt8) :
    tree.Overwritten path bytes (tree'.append path bytes) := by
  unfold create at h
  cases htarget : tree.target path with
  | error fault =>
    rw [htarget] at h
    cases h
  | ok names =>
    rw [htarget] at h
    obtain rfl : tree.setEntry names (.file []) = tree' := Except.ok.inj h
    have hnames := ne_nil_of_target htarget
    unfold append
    rw [target_setEntry htarget]
    dsimp only
    rw [entry?_setEntry_self hnames]
    dsimp only
    refine ⟨rfl, names, htarget, entry?_setEntry_self hnames, fun other hother => ?_⟩
    rw [entry?_setEntry_of_ne hother, entry?_setEntry_of_ne hother]

/-- **What is there stays in its place** when a file is written anew. -/
theorem Rooted.overwritten {tree tree' : FileTree} {path : Text} {bytes : List UInt8}
    (h : tree.Rooted) (hwritten : tree.Overwritten path bytes tree') : tree'.Rooted := by
  obtain ⟨-, names, htarget, hfile, hothers⟩ := hwritten
  obtain ⟨-, before, last, place, hsteps, -, hplace, hlast, hentry, rfl⟩ :=
    target_eq_ok_iff.mp htarget
  have hdirectory : ∀ above, tree.entry? above = some .directory →
      tree'.entry? above = some .directory := by
    intro above habove
    have hne : above ≠ place ++ [last] := fun heq => hentry (heq ▸ habove)
    rw [hothers above hne, habove]
  intro above name hthere
  by_cases heq : above ++ [name] = place ++ [last]
  · obtain ⟨rfl, hsame⟩ := List.append_inj' heq rfl
    rw [(List.cons_eq_cons.mp hsame).1]
    exact ⟨hdirectory above hplace, isName_of_filter_pieces hsteps hlast⟩
  · rw [hothers _ heq] at hthere
    obtain ⟨habove, hname⟩ := h above name hthere
    exact ⟨hdirectory above habove, hname⟩

end SchemaTypes.FileTree
