import SchemaTypes.Declaration.Basic

/-!
# The order of declarations

A type is declared behind the types that its properties refer to, unless they refer back to it.

* `Traversal`: how far a traversal of the names has come.
* `visit`: goes from names to the names that they refer to, and leaves a name when it has been to
  all of them.
* **`declarationOrder`**: the names of the types in the order in which they are left.
-/

namespace SchemaTypes

/-- The state of a traversal of names. -/
structure Traversal where
  waiting : List Text
  order : List Text

namespace Traversal

/-- The traversal when a name has been entered, which does not wait any more. -/
def enter (t : Traversal) (name : Text) : Traversal :=
  { t with waiting := t.waiting.erase name }

/-- The traversal when a name has been left, which comes next in the order. -/
def leave (t : Traversal) (name : Text) : Traversal :=
  { t with order := t.order ++ [name] }

theorem length_waiting_enter {t : Traversal} {name : Text} (h : name ∈ t.waiting) :
    (t.enter name).waiting.length < t.waiting.length := by
  have := List.length_erase_of_mem h
  have := List.length_pos_of_mem h
  simp only [enter]
  omega

end Traversal

/-- Enters those of the names that wait, each after the ones before it have been left. The names
that a name refers to are given by `next`. Nothing comes to wait again. -/
def visit (next : Text → List Text) : (names : List Text) → (t : Traversal) →
    { t' : Traversal // t'.waiting.length ≤ t.waiting.length }
  | [], t => ⟨t, Nat.le_refl _⟩
  | name :: names, t =>
    if h : name ∈ t.waiting then
      have hlt := Traversal.length_waiting_enter h
      let inner := visit next (next name) (t.enter name)
      let outer := visit next names (inner.val.leave name)
      ⟨outer.val, Nat.le_trans outer.property (Nat.le_trans inner.property (Nat.le_of_lt hlt))⟩
    else visit next names t
termination_by names t => (t.waiting.length, names.length)
decreasing_by
  · exact Prod.Lex.left _ _ hlt
  · exact Prod.Lex.left _ _ (Nat.lt_of_le_of_lt inner.property hlt)
  · exact Prod.Lex.right _ (Nat.lt_succ_self _)

/-- The names that a type refers to; none if there is no such type. -/
def referencesOf (types : Table TypeDeclaration) (name : Text) : List Text :=
  ((Table.get? types name).map TypeDeclaration.references).getD []

/-- The names of the types in the order of their declarations: a traversal from the root and then
from every name in turn. The root is gone to even if it is no type. -/
def declarationOrder (types : Table TypeDeclaration) (root : Text) : List Text :=
  (visit (referencesOf types) (root :: Table.keys types)
    ⟨(Table.keys types).insert root, []⟩).val.order

end SchemaTypes
