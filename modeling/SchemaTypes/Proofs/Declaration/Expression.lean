import SchemaTypes.Proofs.Declaration.Origins

/-!
# Expressions of initializers

An initializer is an expression, and an expression may be of the type that a property has or not.

* `Expression`: a literal, a date, a member of an enumeration, or a list of expressions.
* `Initializer.expression`: the expression that an initializer is; `text_expression`: it is written
  like the initializer.
* `Expression.HasType`: the types of expressions.
* `Json.AllAt`: what holds of all values at a depth of lists.
* **`hasType_ofJson_iff`**: when a default as it stands is of a type.
* `Property.MadeFrom.initializer_eq_of_array`: a list is initialized to its default as it stands.
-/

namespace SchemaTypes

/-! ## Expressions -/

/-- What can stand as an initializer. A literal is a value that is no list. -/
inductive Expression where
  | literal (value : Json)
  | date (text : Text)
  | member (enumeration name : Text)
  | array (items : List Expression)

namespace Expression

mutual

/-- The expression as it is written. -/
def text : Expression → Text
  | literal value => value.compact
  | date t => "new Date(" ++ Json.stringLiteral t ++ ")"
  | member enumeration name => enumeration ++ '.' :: name
  | array [] => "[]"
  | array (x :: xs) => "[" ++ text x ++ textItems xs

/-- The further items of a list, and its end. -/
def textItems : List Expression → Text
  | [] => "]"
  | x :: xs => "," ++ text x ++ textItems xs

end

mutual

/-- The expression that a JSON value is. -/
def ofJson : Json → Expression
  | .array vs => array (ofItems vs)
  | value => literal value

/-- The expressions that the items of a list are. -/
def ofItems : List Json → List Expression
  | [] => []
  | v :: vs => ofJson v :: ofItems vs

end

theorem ofItems_eq_map (vs : List Json) : ofItems vs = vs.map ofJson := by
  induction vs with
  | nil => rfl
  | cons v vs ih => rw [ofItems, ih, List.map_cons]

mutual

/-- **A value is written in the same way.** -/
theorem text_ofJson : (value : Json) → (ofJson value).text = value.compact
  | .array [] => by rw [ofJson, ofItems, text, Json.compact]
  | .array (v :: vs) => by
    rw [ofJson, ofItems, text, Json.compact, text_ofJson v, textItems_ofItems vs]
  | .null | .bool _ | .number _ | .string _ | .object _ => by
    rw [ofJson, text]
    nofun

theorem textItems_ofItems : (vs : List Json) → textItems (ofItems vs) = Json.compactItems vs
  | [] => by rw [ofItems, textItems, Json.compactItems]
  | v :: vs => by
    rw [ofItems, textItems, Json.compactItems, text_ofJson v, textItems_ofItems vs]

end

end Expression

/-- The expression that an initializer is. -/
def Initializer.expression : Initializer → Expression
  | literal value => .ofJson value
  | date t => .date t
  | member enumeration name => .member enumeration name

theorem Initializer.text_expression (i : Initializer) : i.expression.text = i.text := by
  cases i with
  | literal value => exact Expression.text_ofJson value
  | date t => rw [expression, Expression.text, text]
  | member enumeration name => rw [expression, Expression.text, text]

/-! ## Types of expressions -/

/-- The type is neither that of a kind of literals nor a list nor an enumeration: it is any type,
that of open objects, or the name of a type that is no enumeration. -/
def TypeExpr.IsOther (enums : Table EnumDeclaration) (type : TypeExpr) : Prop :=
  type = .any ∨ type = .openObject ∨ ∃ name, type = .named name ∧ Table.get? enums name = none

section Types

variable (enums : Table EnumDeclaration) (other : TypeExpr → Expression → Prop)

/-- The types of expressions in front of enumerations. What is of one of the other types is left
open. -/
inductive Expression.HasType : Expression → TypeExpr → Prop
  | string (t : Text) : HasType (literal (.string t)) .string
  | number (n : Json.Number) : HasType (literal (.number n)) .number
  | boolean (b : Bool) : HasType (literal (.bool b)) .boolean
  | date (t : Text) : HasType (date t) .date
  | member {name : Text} {e : EnumDeclaration} {m : EnumMember}
      (he : Table.get? enums name = some e) (hm : m ∈ e.members) :
      HasType (member name m.name) (.named name)
  | array {items : List Expression} {element : TypeExpr} (h : ∀ x ∈ items, HasType x element) :
      HasType (array items) (.array element)
  | other {x : Expression} {type : TypeExpr} (htype : type.IsOther enums) (h : other type x) :
      HasType x type

/-- The value as it stands is a literal of a type that is no list. -/
def Json.IsLiteralOf (type : TypeExpr) (value : Json) : Prop :=
  (type = .string ∧ value.isString) ∨ (type = .number ∧ value.isNumber) ∨
    (type = .boolean ∧ value.isBool) ∨ (type.IsOther enums ∧ other type (.ofJson value))

end Types

/-- The value consists of lists down to a depth, and all values there have a property. -/
def Json.AllAt (P : Json → Prop) : (depth : Nat) → Json → Prop
  | 0, value => P value
  | depth + 1, .array vs => ∀ v ∈ vs, AllAt P depth v
  | _ + 1, _ => False

/-! ## Values as they stand -/

section Values

variable {enums : Table EnumDeclaration} {other : TypeExpr → Expression → Prop}

theorem Expression.ofJson_cases (value : Json) :
    (∃ vs, value = .array vs ∧ ofJson value = array (vs.map ofJson)) ∨
      ofJson value = literal value := by
  cases value with
  | array vs => exact .inl ⟨vs, rfl, by rw [ofJson, ofItems_eq_map]⟩
  | _ =>
    right
    rw [ofJson]
    nofun

theorem TypeExpr.not_isOther_array (element : TypeExpr) : ¬(array element).IsOther enums := by
  rintro (h | h | ⟨name, h, _⟩) <;> exact absurd h nofun

theorem Expression.hasType_ofJson_array_iff {element : TypeExpr} {value : Json} :
    (ofJson value).HasType enums other (.array element) ↔
      ∃ vs, value = .array vs ∧ ∀ v ∈ vs, (ofJson v).HasType enums other element := by
  constructor
  · intro h
    rcases ofJson_cases value with ⟨vs, rfl, hx⟩ | hx <;> rw [hx] at h
    · cases h with
      | array hitems => exact ⟨vs, rfl, fun v hv => hitems _ (List.mem_map_of_mem hv)⟩
      | other htype => exact absurd htype (TypeExpr.not_isOther_array element)
    · cases h with
      | other htype => exact absurd htype (TypeExpr.not_isOther_array element)
  · rintro ⟨vs, rfl, h⟩
    rw [ofJson, ofItems_eq_map]
    refine .array fun x hx => ?_
    obtain ⟨v, hv, rfl⟩ := List.mem_map.mp hx
    exact h v hv

theorem Expression.hasType_literal_iff {type : TypeExpr} {value : Json} :
    (literal value).HasType enums other type ↔
      (type = .string ∧ value.isString) ∨ (type = .number ∧ value.isNumber) ∨
        (type = .boolean ∧ value.isBool) ∨ (type.IsOther enums ∧ other type (literal value)) := by
  constructor
  · rintro (t | n | b | _ | _ | _ | ⟨htype, h⟩)
    · exact .inl ⟨rfl, rfl⟩
    · exact .inr (.inl ⟨rfl, rfl⟩)
    · exact .inr (.inr (.inl ⟨rfl, rfl⟩))
    · exact .inr (.inr (.inr ⟨htype, h⟩))
  · rintro (⟨rfl, hvalue⟩ | ⟨rfl, hvalue⟩ | ⟨rfl, hvalue⟩ | ⟨htype, h⟩)
    · cases value with
      | string t => exact .string t
      | _ => exact absurd hvalue nofun
    · cases value with
      | number n => exact .number n
      | _ => exact absurd hvalue nofun
    · cases value with
      | bool b => exact .boolean b
      | _ => exact absurd hvalue nofun
    · exact .other htype h

theorem Expression.hasType_ofJson_scalar_iff {type : TypeExpr} (hdepth : type.depth = 0)
    {value : Json} :
    (ofJson value).HasType enums other type ↔ value.IsLiteralOf enums other type := by
  unfold Json.IsLiteralOf
  rcases ofJson_cases value with ⟨vs, rfl, hx⟩ | hx
  · rw [hx]
    constructor
    · rintro (_ | _ | _ | _ | _ | _ | ⟨htype, h⟩)
      · exact absurd hdepth (Nat.succ_ne_zero _)
      · exact .inr (.inr (.inr ⟨htype, h⟩))
    · rintro (⟨_, h⟩ | ⟨_, h⟩ | ⟨_, h⟩ | ⟨htype, h⟩)
      · exact absurd h nofun
      · exact absurd h nofun
      · exact absurd h nofun
      · exact .other htype h
  · rw [hx, hasType_literal_iff]

/-- **When a default as it stands is of a type**: it consists of lists down to the depth of the
type, and what there is at this depth are literals of the innermost type. -/
theorem hasType_ofJson_iff (type : TypeExpr) (value : Json) :
    (Expression.ofJson value).HasType enums other type ↔
      value.AllAt (Json.IsLiteralOf enums other type.base) type.depth := by
  induction type generalizing value with
  | array element ih =>
    rw [Expression.hasType_ofJson_array_iff]
    show _ ↔ value.AllAt (Json.IsLiteralOf enums other element.base) (element.depth + 1)
    constructor
    · rintro ⟨vs, rfl, h⟩
      exact fun v hv => (ih v).mp (h v hv)
    · intro h
      cases value with
      | array vs => exact ⟨vs, rfl, fun v hv => (ih v).mpr (h v hv)⟩
      | _ => exact absurd h id
  | _ => exact Expression.hasType_ofJson_scalar_iff rfl

end Values

/-! ## Lists as initializers -/

theorem Property.MadeFrom.type_eq {dates : DateType} {required : Option (List Text)}
    {m : Text × Schema} {p : Property} (h : p.MadeFrom dates required m) :
    p.type = typeExpr dates m.1 m.2 := by
  obtain ⟨d, rfl⟩ := h
  rfl

/-- **What a property of a type of lists is initialized to**: its default as it stands, if this is a
list. -/
theorem Property.MadeFrom.initializer_eq_of_array {dates : DateType}
    {required : Option (List Text)} {m : Text × Schema} {p : Property}
    (h : p.MadeFrom dates required m) {element : TypeExpr} (htype : p.type = .array element) :
    p.initializer = (m.2.defaultValue.filter Json.isArray).map .literal := by
  rw [h.type_eq] at htype
  obtain ⟨d, rfl⟩ := h
  unfold Property.ofSchema
  dsimp only
  rw [htype]
  cases m.2.defaultValue with
  | none => rfl
  | some value =>
    show (if value.isArray then some (Initializer.literal value) else none) = _
    cases hvalue : value.isArray <;> simp [Option.filter, hvalue]

end SchemaTypes
