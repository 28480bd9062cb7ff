import SchemaTypes.Proofs.Declaration.Listing
import SchemaTypes.Proofs.Declaration.Sound

/-!
# Names that are declared

A type that is not built in is referred to by its name, and what has the name is declared on the
way to the type. Later declarations may take its place, but the name stays.

* `reference_eq_base`: what a type refers to is the type of its innermost elements.
* `Declarations.Declares`: an enumeration or a type has the name.
* `Declarations.Closed`: all names in properties are declared.
* `Declarations.Extends`: the names stay declared and the declarations closed.
* `closes_resolve`: a step into a schema extends the declarations by what its type refers to.
* **`closed_ofSchema`**: the declarations of a schema are closed.
-/

namespace SchemaTypes

/-! ## References -/

theorem skipBrackets_of_head? : {t : Text} → t.head? ≠ some ']' → skipBrackets t = t
  | [], _ => rfl
  | c :: t, h => by
    have hc : c ≠ ']' := fun hc => h (hc ▸ rfl)
    unfold skipBrackets
    split
    · next heq => exact absurd (List.cons.inj heq).1 hc
    · rfl

theorem withoutBrackets_of_getLast? {t : Text} (h : t.getLast? ≠ some ']') :
    withoutBrackets t = t := by
  unfold withoutBrackets
  rw [skipBrackets_of_head? (by rwa [List.head?_reverse]), List.reverse_reverse]

theorem withoutBrackets_append_pair (t : Text) :
    withoutBrackets (t ++ "[]") = withoutBrackets t := by
  unfold withoutBrackets
  rw [Text.ofString_eq, List.reverse_append]
  rfl

namespace TypeExpr

theorem withoutBrackets_append_brackets (t : Text) (levels : Nat) :
    withoutBrackets (t ++ brackets levels) = withoutBrackets t := by
  induction levels with
  | zero => rw [brackets, List.append_nil]
  | succ n ih => rw [brackets, ← List.append_assoc, withoutBrackets_append_pair, ih]

theorem getLast?_text_base {type : TypeExpr} (h : type.NamesSound) :
    type.base.text.getLast? ≠ some ']' := by
  induction type with
  | named name =>
    intro hlast
    have hpart := h ']' (List.mem_of_getLast? hlast) (by decide)
    exact absurd hpart (by decide)
  | array element ih => exact ih h
  | _ =>
    unfold base text
    rw [Text.ofString_eq]
    decide

/-- **What a type refers to** is the type of its innermost elements. -/
theorem reference_eq_base {type : TypeExpr} (h : type.NamesSound) :
    type.reference = type.base.text := by
  unfold reference
  rw [text_eq, withoutBrackets_append_brackets, withoutBrackets_of_getLast? (getLast?_text_base h)]

/-- The types that need no declaration, as they are written. -/
def builtIn : List Text :=
  ["string", "number", "boolean", "Date", "any", "\x7b [key: string]: any \x7d"]

theorem text_base_mem_builtIn (type : TypeExpr) :
    type.base.text ∈ builtIn ∨ ∃ name, type.base = named name := by
  induction type with
  | named name => exact .inr ⟨name, rfl⟩
  | array element ih => exact ih
  | _ =>
    left
    unfold base text builtIn
    simp

end TypeExpr

/-! ## Declared names -/

namespace Declarations

/-- An enumeration or a type has the name. -/
def Declares (d : Declarations) (name : Text) : Prop :=
  (Table.get? d.enums name).isSome ∨ (Table.get? d.types name).isSome

/-- If the innermost elements of a type have a type with a name, it is declared. -/
def Knows (d : Declarations) (type : TypeExpr) : Prop :=
  ∀ name, type.base = .named name → d.Declares name

/-- All names in the properties of types are declared. -/
def Closed (d : Declarations) : Prop :=
  ∀ e ∈ d.types, ∀ p ∈ e.2.properties, d.Knows p.type

theorem declares_addEnum {d : Declarations} {e : EnumDeclaration} {name : Text} :
    (d.addEnum e).Declares name ↔ e.name = name ∨ d.Declares name := by
  unfold Declares addEnum
  rw [Table.get?_insert, ← or_assoc]
  by_cases h : e.name = name <;> simp [h]

theorem declares_addType {d : Declarations} {t : TypeDeclaration} {name : Text} :
    (d.addType t).Declares name ↔ t.name = name ∨ d.Declares name := by
  unfold Declares addType
  rw [Table.get?_insert, or_left_comm]
  by_cases h : t.name = name <;> simp [h]

/-- Names stay declared, and declarations that are closed stay so. -/
structure Extends (d d' : Declarations) : Prop where
  declares : ∀ name, d.Declares name → d'.Declares name
  closed : d.Closed → d'.Closed

namespace Extends

variable {d d' d'' : Declarations}

theorem refl (d : Declarations) : d.Extends d :=
  ⟨fun _ h => h, fun h => h⟩

theorem trans (h : d.Extends d') (h' : d'.Extends d'') : d.Extends d'' :=
  ⟨fun name hname => h'.declares name (h.declares name hname),
    fun hclosed => h'.closed (h.closed hclosed)⟩

theorem knows (h : d.Extends d') {type : TypeExpr} (htype : d.Knows type) : d'.Knows type :=
  fun name hname => h.declares name (htype name hname)

theorem addEnum (d : Declarations) (e : EnumDeclaration) : d.Extends (d.addEnum e) where
  declares _ hname := declares_addEnum.mpr (.inr hname)
  closed h t ht p hp name hname := declares_addEnum.mpr (.inr (h t ht p hp name hname))

theorem addType {t : TypeDeclaration} (ht : ∀ p ∈ t.properties, d.Knows p.type) :
    d.Extends (d.addType t) where
  declares _ hname := declares_addType.mpr (.inr hname)
  closed h e he p hp name hname := by
    refine declares_addType.mpr (.inr ?_)
    rcases Table.mem_insert he with rfl | he
    · exact ht p hp name hname
    · exact h e he p hp name hname

end Extends

end Declarations

/-! ## Declarations of a schema -/

/-- A step into a schema leaves what its type refers to declared. -/
def Closes (dates : DateType) (s : Schema) : Prop :=
  ∀ key, ∀ d : Declarations, d.Extends (resolve dates key s d).2 ∧
    (resolve dates key s d).2.Knows (typeExpr dates key s)

theorem closes_resolveAll {dates : DateType} {members : List (Text × Schema)}
    (hm : ∀ m ∈ members, Closes dates m.2) (required : Option (List Text)) (d : Declarations) :
    d.Extends (resolveAll dates required members d).2 ∧
      ∀ p ∈ (resolveAll dates required members d).1,
        (resolveAll dates required members d).2.Knows p.type := by
  induction members generalizing d with
  | nil =>
    rw [resolveAll]
    exact ⟨.refl d, fun p hp => absurd hp List.not_mem_nil⟩
  | cons m members ih =>
    obtain ⟨hfirst, hknows⟩ := hm m List.mem_cons_self m.1 d
    obtain ⟨hrest, hall⟩ := ih (fun a ha => hm a (List.mem_cons_of_mem m ha))
      (resolve dates m.1 m.2 d).2
    rw [resolveAll, fst_resolve]
    refine ⟨hfirst.trans hrest, fun p hp => ?_⟩
    -- what the first refers to stays declared while the others are gone through
    rcases List.mem_cons.mp hp with rfl | hp
    · exact hrest.knows hknows
    · exact hall p hp

theorem closes_addType {dates : DateType} {members : List (Text × Schema)}
    (hm : ∀ m ∈ members, Closes dates m.2) (required : Option (List Text)) (name : Text)
    (description : Option Text) (d : Declarations) :
    d.Extends ((resolveAll dates required members d).2.addType
      ⟨name, (resolveAll dates required members d).1, description⟩) := by
  obtain ⟨hextends, hknows⟩ := closes_resolveAll hm required d
  exact hextends.trans (.addType hknows)

/-- **A step into a schema** leaves declared what its type refers to. -/
theorem closes_resolve (dates : DateType) (s : Schema) : Closes dates s := by
  induction s using Schema.induction with
  | h s hi hp =>
    intro key d
    rw [resolve_eq, typeExpr_eq]
    cases hshape : s.shape with
    | enumeration values =>
      refine ⟨.addEnum d _, fun name hname => Declarations.declares_addEnum.mpr (.inl ?_)⟩
      exact TypeExpr.named.inj hname
    | array =>
      -- the innermost elements of the array are those of its items
      cases hitems : s.items with
      | none => exact ⟨.refl d, nofun⟩
      | some item => exact hi item hitems key d
    | record =>
      obtain ⟨members, hmembers⟩ := Schema.exists_properties_of_record hshape
      rw [hmembers]
      refine ⟨closes_addType (hp members hmembers) s.required _ _ d, fun name hname => ?_⟩
      exact Declarations.declares_addType.mpr (.inl (TypeExpr.named.inj hname))
    | date => exact ⟨.refl d, by cases dates <;> nofun⟩
    | _ => exact ⟨.refl d, nofun⟩

/-- **The declarations of a schema** are closed. -/
theorem closed_ofSchema (dates : DateType) (name : Text) (s : Schema) :
    (Declarations.ofSchema dates name s).Closed := by
  have hempty : ({} : Declarations).Closed := fun e he => absurd he List.not_mem_nil
  unfold Declarations.ofSchema
  split
  · exact hempty
  · exact hempty
  · next members _ _ =>
    exact (closes_addType (fun m _ => closes_resolve dates m.2) s.required name _ {}).closed hempty

end SchemaTypes
