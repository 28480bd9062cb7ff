import SchemaTypes.Text.Alphanumeric
import SchemaTypes.Text.LetterCase

/-!
# Upper camel case

A text is cut into words, each word is capitalized, and the words are put together.

* `runs`: the longest runs of alphanumeric characters.
* `humps`: a run cut where its letters change case, `parseHTTPHeader` into `parse`, `HTTP` and
  `Header`.
* `capitalize`: the first character in its capital form, the others in their small forms.
* **`upperCamel`**: the capitalized words of a text in one.
-/

namespace SchemaTypes.Text

/-! ## Words -/

/-- The runs of characters with the property, cut at all others and in order; some may be
empty. -/
def runs (p : Char → Bool) : Text → List Text
  | [] => [[]]
  | c :: r =>
    if p c then
      match runs p r with
      | [] => [[c]]
      | run :: rest => (c :: run) :: rest
    else [] :: runs p r

/-- The case of the letters that a word ended with so far. -/
inductive LastCase where
  | none
  | small
  | capital
deriving DecidableEq, Repr

/-- The case after a character; one without case changes nothing. -/
def LastCase.after (last : LastCase) (c : Char) : LastCase :=
  if isLowercase c then .small else if isUppercase c then .capital else last

/-- The words of a run. A word ends after a small letter before a capital, and before the last of
several capitals if a small letter follows it. The characters of the open word are kept in
reverse. -/
def humpsFrom (last : LastCase) (word : Text) : Text → List Text
  | [] => []
  | [c] => [(c :: word).reverse]
  | c :: d :: r =>
    if last.after c = .small ∧ isUppercase d then
      (c :: word).reverse :: humpsFrom .none [] (d :: r)
    else if last = .capital ∧ isUppercase c ∧ isLowercase d then
      word.reverse :: humpsFrom .none [c] (d :: r)
    else
      humpsFrom (last.after c) (c :: word) (d :: r)

/-- The words of a run of letters and numbers. -/
def humps (run : Text) : List Text :=
  humpsFrom .none [] run

/-- The words of a text. -/
def words (t : Text) : List Text :=
  (runs isAlphanumeric t).flatMap humps

/-! ## Capitals -/

/-- The small forms of the characters of a word's end; a last sigma takes its final form. -/
def lowercaseTail : Text → Text
  | [] => []
  | [c] => if c = 'Σ' then ['ς'] else lowercase c
  | c :: d :: r => lowercase c ++ lowercaseTail (d :: r)

/-- A word that begins with a capital and goes on in small letters. -/
def capitalize : Text → Text
  | [] => []
  | c :: r => uppercase c ++ lowercaseTail r

/-- The words of a text, each capitalized, in one. -/
def upperCamel (t : Text) : Text :=
  (words t).flatMap capitalize

end SchemaTypes.Text
