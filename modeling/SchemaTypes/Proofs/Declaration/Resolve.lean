import SchemaTypes.Declaration.Collect

/-!
# Going through a schema

The declarations of a schema are made part by part, each from the declarations before it.

* `Schema.induction`: what holds of a schema if it holds of its parts holds of every schema.
* `typeExpr`: the type of the values under a key, without the declarations on the way to it.
* `resolve_eq`: one step into a schema.
* `Grows`: a property of declarations that every addition keeps.
* **`Grows.ofSchema`**: it holds of the declarations of every schema.
-/

namespace SchemaTypes

/-! ## Parts of schemas -/

/-- **Induction over schemas**: from the items and the properties to the whole. -/
theorem Schema.induction {motive : Schema → Prop}
    (h : ∀ s : Schema, (∀ item ∈ s.items, motive item) →
      (∀ members ∈ s.properties, ∀ m ∈ members, motive m.2) → motive s) :
    (s : Schema) → motive s
  | ⟨title, description, type, format, properties, required, enumeration, items, readOnly, value⟩ =>
    h _
      (fun item hi => by
        obtain rfl : items = some item := hi
        exact Schema.induction h item)
      (fun members hm m hmem => by
        obtain rfl : properties = some members := hm
        exact Schema.induction h m.2)
termination_by s => sizeOf s
decreasing_by
  · subst hi
    simp +arith
  · subst hm
    have := List.sizeOf_lt_of_mem hmem
    have : sizeOf m.2 < sizeOf m := by
      cases m
      simp +arith
    simp +arith
    omega

/-- The type of the values under a key. -/
def typeExpr (dates : DateType) (key : Text) : Schema → TypeExpr
  | s@⟨title, _, _, _, _, _, _, items, _, _⟩ =>
    match s.shape with
    | .enumeration _ | .record => .named (typeNameOf key title)
    | .string => .string
    | .date => dates.expr
    | .number => .number
    | .boolean => .boolean
    | .array =>
      match items with
      | none => .array .any
      | some item => .array (typeExpr dates key item)
    | .openObject => .openObject
    | .any => .any

theorem typeExpr_eq (dates : DateType) (key : Text) (s : Schema) :
    typeExpr dates key s =
      match s.shape with
      | .enumeration _ | .record => .named (typeNameOf key s.title)
      | .string => .string
      | .date => dates.expr
      | .number => .number
      | .boolean => .boolean
      | .array => .array ((s.items.map (typeExpr dates key)).getD .any)
      | .openObject => .openObject
      | .any => .any := by
  cases s with
  | mk title description type format properties required enumeration items readOnly defaultValue =>
    rw [typeExpr.eq_def]
    cases items <;> rfl

/-- One step into a schema. -/
theorem resolve_eq (dates : DateType) (key : Text) (s : Schema) (d : Declarations) :
    (resolve dates key s d).2 =
      match s.shape with
      | .enumeration values =>
        d.addEnum ⟨typeNameOf key s.title, enumMembers values, describe s.description⟩
      | .array => (s.items.map fun item => (resolve dates key item d).2).getD d
      | .record =>
        match s.properties with
        | none => d
        | some members =>
          let own := resolveAll dates s.required members d
          own.2.addType ⟨typeNameOf key s.title, own.1, describe s.description⟩
      | _ => d := by
  cases s with
  | mk title description type format properties required enumeration items readOnly defaultValue =>
    rw [resolve.eq_def]
    dsimp only
    generalize Schema.shape _ = shape
    cases shape <;> cases items <;> cases properties <;> rfl

/-- **The type does not depend on the declarations.** -/
theorem fst_resolve (dates : DateType) (key : Text) (s : Schema) :
    ∀ d, (resolve dates key s d).1 = typeExpr dates key s := by
  induction s using Schema.induction with
  | h s hi _ =>
    intro d
    cases s with
    | mk title description type format properties required enumeration items readOnly
        defaultValue =>
      unfold resolve typeExpr
      generalize Schema.shape _ = shape
      cases shape with
      | array =>
        cases items with
        | none => rfl
        | some item => exact congrArg TypeExpr.array (hi item rfl d)
      | record => cases properties <;> rfl
      | _ => rfl

/-! ## Properties that are kept -/

/-- The additions of a schema keep the first property of declarations, and what is made from
declarations that have it has the second property. -/
structure Grows (dates : DateType) (P : Declarations → Prop) (Q : Property → Prop) : Prop where
  enumeration : ∀ d key (s : Schema) values, P d → s.shape = .enumeration values →
    P (d.addEnum ⟨typeNameOf key s.title, enumMembers values, describe s.description⟩)
  property : ∀ d required key s, P d →
    Q (.ofSchema required d.enums key s (typeExpr dates key s))
  record : ∀ d key (s : Schema) properties, P d → (∀ p ∈ properties, Q p) →
    P (d.addType ⟨typeNameOf key s.title, properties, describe s.description⟩)

namespace Grows

variable {dates : DateType} {P : Declarations → Prop} {Q : Property → Prop}

theorem resolveAll_of_forall (h : Grows dates P Q) (required : Option (List Text))
    {members : List (Text × Schema)}
    (hm : ∀ m ∈ members, ∀ key d, P d → P (resolve dates key m.2 d).2) :
    ∀ d, P d → P (resolveAll dates required members d).2 ∧
      ∀ p ∈ (resolveAll dates required members d).1, Q p := by
  induction members with
  | nil => exact fun d hd => ⟨hd, by simp [resolveAll]⟩
  | cons m members ih =>
    intro d hd
    obtain ⟨key, s⟩ := m
    have hs := hm (key, s) List.mem_cons_self key d hd
    obtain ⟨hrest, hall⟩ := ih (fun m hm' => hm m (List.mem_cons_of_mem _ hm')) _ hs
    rw [resolveAll, fst_resolve]
    refine ⟨hrest, fun p hp => ?_⟩
    rcases List.mem_cons.mp hp with rfl | hp
    · exact h.property _ required key s hs
    · exact hall p hp

/-- **A step into a schema** keeps the property. -/
theorem resolve (h : Grows dates P Q) (s : Schema) :
    ∀ key d, P d → P (SchemaTypes.resolve dates key s d).2 := by
  induction s using Schema.induction with
  | h s hi hp =>
    intro key d hd
    rw [resolve_eq]
    cases hshape : s.shape with
    | enumeration values => exact h.enumeration d key s values hd hshape
    | array =>
      cases he : s.items with
      | none => exact hd
      | some item => exact hi item he key d hd
    | record =>
      cases he : s.properties with
      | none => exact hd
      | some members =>
        obtain ⟨hown, hall⟩ := h.resolveAll_of_forall s.required (hp members he) d hd
        exact h.record _ key s _ hown hall
    | _ => exact hd

theorem resolveAll (h : Grows dates P Q) (required : Option (List Text))
    (members : List (Text × Schema)) (d : Declarations) (hd : P d) :
    P (SchemaTypes.resolveAll dates required members d).2 ∧
      ∀ p ∈ (SchemaTypes.resolveAll dates required members d).1, Q p :=
  h.resolveAll_of_forall required (fun m _ key d => h.resolve m.2 key d) d hd

/-- **The declarations of a schema** have the property if its own type does not take it away. -/
theorem ofSchema (h : Grows dates P Q) (h₀ : P {}) (name : Text) (s : Schema)
    (hroot : ∀ d properties, P d → (∀ p ∈ properties, Q p) →
      P (d.addType ⟨name, properties, describe s.description⟩)) :
    P (Declarations.ofSchema dates name s) := by
  unfold Declarations.ofSchema
  split
  · exact h₀
  · exact h₀
  · next members _ _ =>
    obtain ⟨hown, hall⟩ := h.resolveAll s.required members {} h₀
    exact hroot _ _ hown hall

end Grows

end SchemaTypes
