import SchemaTypes.Text.Basic

/-!
# Tables

A table maps texts to values. It is a list of entries in strictly ascending order of the keys, by
code points, so that going through a table goes through its keys in order.

* `Table.insert`: puts a value under a key; a value that was there gives way.
* `Table.get?`: the value under a key; **`Table.get?_insert`**: what is found after an insertion.
* `sortedDistinct`: the members of a list in order, each once.
-/

namespace SchemaTypes

/-- A list of entries with ascending keys. -/
abbrev Table (α : Type) := List (Text × α)

namespace Table

variable {α : Type}

/-- A table with a value under a key, in the place of any other one. -/
def insert (key : Text) (value : α) : Table α → Table α
  | [] => [(key, value)]
  | e :: t =>
    if key < e.1 then (key, value) :: e :: t
    else if key = e.1 then (key, value) :: t
    else e :: insert key value t

/-- The value under a key. -/
def get? (t : Table α) (key : Text) : Option α :=
  (t.find? fun e => e.1 = key).map Prod.snd

/-- The keys of a table. -/
def keys (t : Table α) : List Text :=
  t.map Prod.fst

/-- The values of a table. -/
def values (t : Table α) : List α :=
  t.map Prod.snd

theorem get?_cons (e : Text × α) (t : Table α) (key : Text) :
    get? (e :: t) key = if e.1 = key then some e.2 else get? t key := by
  by_cases h : e.1 = key <;> simp [get?, h]

/-- **The last value under a key is the one that is found.** -/
theorem get?_insert (key k : Text) (value : α) (t : Table α) :
    get? (insert key value t) k = if key = k then some value else get? t k := by
  induction t with
  | nil => rw [insert, get?_cons]
  | cons e t ih =>
    by_cases hlt : key < e.1
    · rw [insert, if_pos hlt, get?_cons]
    · by_cases heq : key = e.1
      · rw [insert, if_neg hlt, if_pos heq, get?_cons, get?_cons, ← heq]
        split <;> rfl
      · rw [insert, if_neg hlt, if_neg heq, get?_cons, get?_cons, ih]
        by_cases hk : e.1 = k
        · rw [if_pos hk, if_pos hk, if_neg fun h => heq (h.trans hk.symm)]
        · rw [if_neg hk, if_neg hk]

theorem mem_keys_insert {key k : Text} {value : α} {t : Table α} :
    k ∈ keys (insert key value t) ↔ k = key ∨ k ∈ keys t := by
  induction t with
  | nil => simp [insert, keys]
  | cons e t ih =>
    rw [insert]
    split
    · simp [keys]
    · split
      · next h => simp [keys, h]
      · simp only [keys, List.map_cons, List.mem_cons] at ih ⊢
        rw [ih]
        exact or_left_comm

end Table

/-- Puts a text into a list in ascending order, unless it is there. -/
def insertDistinct (t : Text) : List Text → List Text
  | [] => [t]
  | u :: us => if t < u then t :: u :: us else if t = u then u :: us else u :: insertDistinct t us

/-- The texts of a list in ascending order, each once. -/
def sortedDistinct (ts : List Text) : List Text :=
  ts.foldr insertDistinct []

end SchemaTypes
