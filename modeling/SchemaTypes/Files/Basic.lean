import SchemaTypes.Failure

/-!
# Files

A program reaches files by their paths, on a machine or in a tree that is kept in memory.

* `Files`: what a program can do with files.
* `Path.directory`, `Path.join`: the directory in which a path ends, and a path from there.
* `Path.next`: where a step of a path leads.
* **`readText`**: a file as a text.
-/

namespace SchemaTypes

/-- What a program can do with files: read one, make one empty whether it is there or not, and put
bytes at the end of one that has been created. -/
class Files (m : Type → Type) where
  read : (path : Text) → m (Except FileFault (List UInt8))
  create : (path : Text) → m (Except FileFault Unit)
  append : (path : Text) → (bytes : List UInt8) → m Unit

/-! ## Paths -/

namespace Path

/-- Does the path begin at the root of all files? -/
def isAbsolute (path : Text) : Bool :=
  path.head? = some '/'

/-- A path up to its last slash; empty if it has none. -/
def directory (path : Text) : Text :=
  (path.reverse.dropWhile (· ≠ '/')).reverse

/-- A path that starts in a directory, unless it is absolute. -/
def join (directory path : Text) : Text :=
  if isAbsolute path then path
  else if directory.isEmpty || Text.endsWith directory '/' then directory ++ path
  else directory ++ '/' :: path

/-- The names to which a step of a path leads. An empty step and a dot stay, two dots go up, and
stay at the root. -/
def next (names : List Text) (name : Text) : List Text :=
  if name = [] ∨ name = ['.'] then names
  else if name = ['.', '.'] then names.dropLast
  else names ++ [name]

end Path

/-! ## Texts in files -/

variable {m : Type → Type} [Monad m]

/-- The text whose bytes have been read. -/
def decodeText (bytes : Except FileFault (List UInt8)) : Except Failure Text :=
  match bytes with
  | .error fault => .error (.file fault)
  | .ok bytes =>
    match Text.ofUtf8? bytes with
    | some t => .ok t
    | none => .error (.file .notText)

/-- The text that a file holds. -/
def readText [Files m] (path : Text) : ExceptT Failure m Text :=
  ExceptT.mk (decodeText <$> Files.read path)

end SchemaTypes
