import SchemaTypes.Text.Blank

/-!
# Imports

Hand-written code may begin or continue with import statements, which belong in front of all
generated code. A reference line is an import of its own; an import statement begins with a line
that starts with `import` and runs through the first line that ends a statement. A statement that
never ends is no import.

* `isReference`, `startsImport`, `endsImport`: the kinds of lines, told from their trimmed text.
* `ImportSplit.ofLines`: goes through the lines.
* **`ImportSplit.ofCode`**: the imports of a code and all else.
-/

namespace SchemaTypes

/-! ## Kinds of lines -/

/-- Is the line a reference to another file? -/
def isReference (trimmed : Text) : Bool :=
  trimmed.startsWith "/// <reference"

/-- Does an import statement begin with the line? -/
def startsImport (trimmed : Text) : Bool :=
  trimmed.startsWith "import " || trimmed.startsWith "import\x7b"

/-- Does a running import statement end with the line? -/
def endsImport (trimmed : Text) : Bool :=
  trimmed.endsWith ';' || trimmed.endsWith '\'' || trimmed.endsWith '"' || trimmed.endsWith ')'

/-! ## The two parts of a code -/

/-- The import lines of a code and the rest of it. -/
structure ImportSplit where
  imports : List Text
  body : Text
deriving DecidableEq, Repr

namespace ImportSplit

/-- The split of the lines behind a running statement, whose lines are given without blanks at
their ends. The lines of a statement that never ends are left in the body. -/
def ofLines (statement : List Text) : List Text → ImportSplit
  | [] => ⟨[], statement.flatMap (· ++ "\n")⟩
  | line :: rest =>
    let trimmed := Text.trim line
    if statement.isEmpty && isReference trimmed then
      let s := ofLines [] rest
      { s with imports := Text.trimEnd line :: s.imports }
    else if statement.isEmpty && !startsImport trimmed then
      let s := ofLines [] rest
      { s with body := line ++ s.body }
    else if endsImport trimmed then
      let s := ofLines [] rest
      { s with imports := statement ++ Text.trimEnd line :: s.imports }
    else ofLines (statement ++ [Text.trimEnd line]) rest

/-- The imports of a code and the rest of it. -/
def ofCode (code : Text) : ImportSplit :=
  ofLines [] (Text.inclusiveLines code)

/-- The imports as they are written. -/
def importCode (s : ImportSplit) : Text :=
  Text.join "\n" s.imports

end ImportSplit

end SchemaTypes
