import SchemaTypes.Files.Basic

/-!
# Trees of files

Every file has one place in the tree, and nothing in it is denied to a program.

* `FileTree`: all files and directories, and the directory in which a program works.
* `FileTree.walk`: follows a path step by step.
* **`FileTree.read`, `FileTree.create`, `FileTree.append`**: what can be done with the file at the
  end of a path.
-/

namespace SchemaTypes

/-! ## Entries -/

/-- What is found at the end of a path. -/
inductive Entry where
  | file (bytes : List UInt8)
  | directory
deriving DecidableEq, Repr

/-- All files and directories, each with the names that lead to it from the root, and the names of
the directory in which a program works. -/
structure FileTree where
  entries : List (List Text × Entry) := []
  workingDirectory : List Text := []
deriving DecidableEq, Repr

namespace FileTree

/-- The entry to which names lead from the root. No names lead to the root itself. -/
def entry? (tree : FileTree) (names : List Text) : Option Entry :=
  if names = [] then some .directory
  else (tree.entries.find? fun e => e.1 = names).map Prod.snd

/-- Puts an entry where the names lead. -/
def setEntry (tree : FileTree) (names : List Text) (e : Entry) : FileTree :=
  { tree with
    entries :=
      if tree.entries.any fun f => f.1 = names then
        tree.entries.map fun f => if f.1 = names then (names, e) else f
      else tree.entries ++ [(names, e)] }

/-- Puts an entry where the names lead, below some names, and directories on the way to it. -/
def addEntry (tree : FileTree) (above : List Text) (e : Entry) : (names : List Text) → FileTree
  | [] => tree
  | [name] => tree.setEntry (above ++ [name]) e
  | name :: names =>
    let way := above ++ [name]
    (if (tree.entry? way).isSome then tree else tree.setEntry way .directory).addEntry way e names

/-- The files below the working directory with the paths that lead to them from there. -/
def files (tree : FileTree) : List (Text × List UInt8) :=
  tree.entries.filterMap fun
    | (names, .file bytes) =>
      if tree.workingDirectory.isPrefixOf names then
        some (Text.join ['/'] (names.drop tree.workingDirectory.length), bytes)
      else none
    | (_, .directory) => none

/-- A tree that has, below its working directory, the files and the empty directories whose paths
are given; that of a directory ends in a slash. -/
def ofFiles (files : List (Text × List UInt8)) : FileTree :=
  files.foldl (fun tree (path, bytes) =>
    tree.addEntry tree.workingDirectory
      (if Text.endsWith path '/' then .directory else .file bytes)
      ((Text.pieces '/' path).filter (!·.isEmpty)))
    { entries := [(["work"], .directory)], workingDirectory := ["work"] }

/-! ## Following paths -/

/-- The names to which a path leads from the root begin with those of the working directory, unless
it is absolute. -/
def start (tree : FileTree) (path : Text) : List Text :=
  if Path.isAbsolute path then [] else tree.workingDirectory

/-- Enters a directory. -/
def enter (tree : FileTree) (names : List Text) : Except FileFault (List Text) :=
  match tree.entry? names with
  | some .directory => .ok names
  | some (.file _) => .error .notDirectory
  | none => .error .notFound

/-- Goes a step of a path, from a directory to what is there. -/
def step (tree : FileTree) (names : List Text) (name : Text) : Except FileFault (List Text) := do
  let next := Path.next (← tree.enter names) name
  if (tree.entry? next).isSome then return next else throw .notFound

/-- Goes some steps of a path, one after the other. -/
def walk (tree : FileTree) (names : List Text) (steps : List Text) :
    Except FileFault (List Text) :=
  steps.foldlM tree.step names

/-- The bytes of the file at the end of a path. -/
def read (tree : FileTree) (path : Text) : Except FileFault (List UInt8) :=
  if path.isEmpty then .error .notFound
  else do
    match tree.entry? (← tree.walk (tree.start path) (Text.pieces '/' path)) with
    | some (.file bytes) => return bytes
    | _ => throw .isDirectory

/-- Can no file be created in a directory by the last step of a path? -/
def namesDirectory (path last : Text) : Bool :=
  Text.endsWith path '/' || last = ['.'] || last = ['.', '.']

/-- The names that lead to the file that can be created at the end of a path. -/
def target (tree : FileTree) (path : Text) : Except FileFault (List Text) :=
  if path.isEmpty then .error .notFound
  else match ((Text.pieces '/' path).filter (!·.isEmpty)).reverse with
    | [] => .error .isDirectory
    | last :: before => do
      let above ← tree.enter (← tree.walk (tree.start path) before.reverse)
      if namesDirectory path last then throw .isDirectory
      if tree.entry? (above ++ [last]) = some .directory then throw .isDirectory
      return above ++ [last]

/-- Makes the file at the end of a path empty. -/
def create (tree : FileTree) (path : Text) : Except FileFault FileTree :=
  (tree.target path).map fun names => tree.setEntry names (.file [])

/-- Puts bytes at the end of the file at the end of a path. -/
def append (tree : FileTree) (path : Text) (bytes : List UInt8) : FileTree :=
  match tree.target path with
  | .error _ => tree
  | .ok names =>
    match tree.entry? names with
    | some (.file before) => tree.setEntry names (.file (before ++ bytes))
    | _ => tree

end FileTree

instance : Files (StateM FileTree) where
  read path := fun tree => (tree.read path, tree)
  create path := fun tree =>
    match tree.create path with
    | .ok tree' => (.ok (), tree')
    | .error fault => (.error fault, tree)
  append path bytes := fun tree => ((), tree.append path bytes)

end SchemaTypes
