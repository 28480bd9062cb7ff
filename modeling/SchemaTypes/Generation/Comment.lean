import SchemaTypes.Text.Blank

/-!
# Comments

A description stands in a comment of its own, a line of the comment for each of its lines.

* `unlines`: lines put together, each with a line feed at its end.
* `commentContent`: a line of a description in which no comment can end.
* **`docComment`**: the lines of the comment of a description.
-/

namespace SchemaTypes

/-- The text with the lines, each ended by a line feed. -/
def unlines (ls : List Text) : Text :=
  ls.flatMap (· ++ ['\n'])

@[simp] theorem unlines_nil : unlines [] = [] := rfl

@[simp] theorem unlines_cons (l : Text) (ls : List Text) :
    unlines (l :: ls) = l ++ '\n' :: unlines ls := by
  simp [unlines]

@[simp] theorem unlines_append (ls ms : List Text) :
    unlines (ls ++ ms) = unlines ls ++ unlines ms := by
  simp [unlines]

/-- A line without the blanks at its end, in which a backslash parts every star from a slash. -/
def commentContent (line : Text) : Text :=
  Text.replaceAll '*' '/' "*\\/" (Text.trimEnd line)

/-- The line of a comment for a line of a description. -/
def commentLine (indent line : Text) : Text :=
  match commentContent line with
  | [] => indent ++ " *"
  | content => indent ++ " * " ++ content

/-- The lines of the comment of a description; nothing if there is none. -/
def docComment (indent : Text) : (description : Option Text) → List Text
  | none => []
  | some t =>
    (indent ++ "/**") :: (Text.lines t).map (commentLine indent) ++ [indent ++ " */"]

end SchemaTypes
