import SchemaTypes.Generation.Document
import SchemaTypes.Proofs.Declaration.Resolve
import SchemaTypes.Proofs.Table

/-!
# Schemas in canonical form

Of the required keys and of the values of an enumeration only the texts count that are among them.
In canonical form they are in order, each once, and an enumeration that is not one of strings is
empty.

* `Schema.canonical`: the canonical form of a schema and of all schemas in it.
* `resolve_canonical`: it describes the same types.
* **`Outline.ofSchema_canonical`**: it has the same outline.
-/

namespace SchemaTypes

/-! ## Canonical schemas -/

namespace Schema

/-- The values of an enumeration of strings in order, and none of any other enumeration. -/
def canonicalValues (values : List Json) : List Json :=
  match values.mapM Json.string? with
  | none => []
  | some texts => (sortedDistinct texts).map .string

mutual

/-- The canonical form of a schema. -/
def canonical : Schema → Schema
  | ⟨title, description, type, format, properties, required, enumeration, items, readOnly,
      defaultValue⟩ =>
    { title, description, type, format
      properties := match properties with
        | none => none
        | some members => some (canonicalAll members)
      required := required.map sortedDistinct
      enumeration := enumeration.map canonicalValues
      items := match items with
        | none => none
        | some item => some item.canonical
      readOnly, defaultValue }

/-- The canonical forms of schemas under keys. -/
def canonicalAll : List (Text × Schema) → List (Text × Schema)
  | [] => []
  | (key, s) :: rest => (key, s.canonical) :: canonicalAll rest

end

theorem canonicalAll_eq (members : List (Text × Schema)) :
    canonicalAll members = members.map (Prod.map id canonical) := by
  induction members with
  | nil => rfl
  | cons m members ih => rw [canonicalAll, ih]; rfl

theorem canonical_eq (s : Schema) : s.canonical =
    { s with
      properties := s.properties.map (List.map (Prod.map id canonical))
      required := s.required.map sortedDistinct
      enumeration := s.enumeration.map canonicalValues
      items := s.items.map canonical } := by
  cases s with
  | mk title description type format properties required enumeration items readOnly defaultValue =>
    rw [canonical.eq_def]
    cases properties <;> cases items <;> simp [canonicalAll_eq]

/-- An enumeration of strings is not empty. -/
theorem stringEnum?_eq (s : Schema) : s.stringEnum? =
    (s.enumeration.bind fun values => values.mapM Json.string?).filter (!·.isEmpty) := by
  unfold stringEnum?
  cases s.enumeration with
  | none => rfl
  | some values =>
    cases values with
    | nil => rfl
    | cons v vs =>
      simp only [Option.bind, List.mapM_cons]
      cases v.string? with
      | none => rfl
      | some t => cases vs.mapM Json.string? <;> rfl

theorem mapM_string?_map (texts : List Text) :
    (texts.map Json.string).mapM Json.string? = some texts := by
  induction texts with
  | nil => rfl
  | cons t ts ih =>
    rw [List.map_cons, List.mapM_cons, ih]
    rfl

theorem stringEnum?_canonical (s : Schema) :
    s.canonical.stringEnum? = s.stringEnum?.map sortedDistinct := by
  rw [stringEnum?_eq, stringEnum?_eq, canonical_eq]
  cases s.enumeration with
  | none => rfl
  | some values =>
    simp only [Option.map, Option.bind, canonicalValues]
    cases values.mapM Json.string? with
    | none => rfl
    | some texts =>
      rw [mapM_string?_map]
      cases texts with
      | nil => rfl
      | cons t ts =>
        obtain ⟨u, us, hu⟩ := List.exists_cons_of_ne_nil
          (List.ne_nil_of_mem (mem_sortedDistinct.mpr (List.mem_cons_self (a := t) (l := ts))))
        rw [hu]
        exact congrArg some hu.symm

theorem hasProperties_canonical (s : Schema) : s.canonical.hasProperties = s.hasProperties := by
  rw [canonical_eq]
  unfold hasProperties
  cases s.properties with
  | none => rfl
  | some members => cases members <;> rfl

theorem shape_canonical (s : Schema) : s.canonical.shape =
    match s.shape with
    | .enumeration values => .enumeration (sortedDistinct values)
    | shape => shape := by
  have htype : s.canonical.type = s.type := by rw [canonical_eq]
  have hformat : s.canonical.format = s.format := by rw [canonical_eq]
  have hshape : s.canonical.shapeOfType = s.shapeOfType := by
    funext type
    unfold shapeOfType
    rw [hformat, hasProperties_canonical]
  unfold shape
  rw [stringEnum?_canonical, htype, hshape]
  cases s.stringEnum? with
  | some values => rfl
  | none =>
    cases s.type with
    | none => rfl
    | some type =>
      show s.shapeOfType type = match s.shapeOfType type with
        | .enumeration values => .enumeration (sortedDistinct values)
        | shape => shape
      unfold shapeOfType
      split_ifs <;> rfl

end Schema

/-! ## What they describe -/

theorem enumMembers_sortedDistinct (values : List Text) :
    enumMembers (sortedDistinct values) = enumMembers values := by
  unfold enumMembers
  rw [sortedDistinct_sortedDistinct]

theorem Property.ofSchema_canonical (required : Option (List Text)) (enums : Table EnumDeclaration)
    (key : Text) (s : Schema) (type : TypeExpr) :
    Property.ofSchema (required.map sortedDistinct) enums key s.canonical type =
      Property.ofSchema required enums key s type := by
  have hrequired : ((required.map sortedDistinct).getD []).contains key =
      (required.getD []).contains key := by
    cases required with
    | none => rfl
    | some ts =>
      rw [Bool.eq_iff_iff, List.contains_iff_mem, List.contains_iff_mem]
      exact mem_sortedDistinct
  unfold Property.ofSchema
  rw [hrequired, s.canonical_eq]

variable (dates : DateType)

theorem typeExpr_canonical (s : Schema) :
    ∀ key, typeExpr dates key s.canonical = typeExpr dates key s := by
  induction s using Schema.induction with
  | h s hi _ =>
    intro key
    have hitems : (s.items.map Schema.canonical).map (typeExpr dates key) =
        s.items.map (typeExpr dates key) := by
      cases h : s.items with
      | none => rfl
      | some item => exact congrArg some (hi item h key)
    rw [typeExpr_eq, typeExpr_eq, s.shape_canonical, s.canonical_eq]
    cases s.shape with
    | array => exact congrArg (fun t : Option TypeExpr => TypeExpr.array (t.getD .any)) hitems
    | _ => rfl

theorem resolveAll_map_canonical (required : Option (List Text)) {members : List (Text × Schema)}
    (h : ∀ m ∈ members, ∀ key d, resolve dates key m.2.canonical d = resolve dates key m.2 d) :
    ∀ d, resolveAll dates (required.map sortedDistinct) (members.map (Prod.map id Schema.canonical))
      d = resolveAll dates required members d := by
  induction members with
  | nil => exact fun _ => rfl
  | cons m members ih =>
    intro d
    obtain ⟨key, s⟩ := m
    obtain ⟨hm, hmembers⟩ := List.forall_mem_cons.mp h
    rw [List.map_cons, Prod.map, resolveAll, resolveAll]
    simp only [id, hm, ih hmembers, Property.ofSchema_canonical]

/-- **A schema describes the same types** as its canonical form. -/
theorem resolve_canonical (s : Schema) :
    ∀ key d, resolve dates key s.canonical d = resolve dates key s d := by
  induction s using Schema.induction with
  | h s hi hp =>
    intro key d
    refine Prod.ext ?_ ?_
    · rw [fst_resolve, fst_resolve, typeExpr_canonical]
    · rw [resolve_eq, resolve_eq, s.shape_canonical, s.canonical_eq]
      cases s.shape with
      | enumeration values => simp only [enumMembers_sortedDistinct]
      | array =>
        dsimp only
        cases h : s.items with
        | none => rfl
        | some item => exact congrArg Prod.snd (hi item h key d)
      | record =>
        dsimp only
        cases h : s.properties with
        | none => rfl
        | some members =>
          simp only [Option.map_some, resolveAll_map_canonical dates s.required (hp members h)]
      | _ => rfl

/-- **A schema has the same outline** as its canonical form. -/
theorem Outline.ofSchema_canonical (s : Schema) :
    Outline.ofSchema dates s.canonical = Outline.ofSchema dates s := by
  have hdeclarations : ∀ name,
      Declarations.ofSchema dates name s.canonical = Declarations.ofSchema dates name s := by
    intro name
    unfold Declarations.ofSchema
    rw [s.canonical_eq]
    dsimp only
    cases s.properties with
    | none => rfl
    | some members =>
      cases members with
      | nil => rfl
      | cons m members =>
        have hall : ∀ d, resolveAll dates (s.required.map sortedDistinct)
            ((m :: members).map (Prod.map id Schema.canonical)) d =
              resolveAll dates s.required (m :: members) d :=
          resolveAll_map_canonical dates s.required fun m _ key d =>
            resolve_canonical dates m.2 key d
        simp only [Option.map_some, List.map_cons] at hall ⊢
        rw [hall]
  have htype : s.canonical.type = s.type := by rw [s.canonical_eq]
  have htitle : s.canonical.title = s.title := by rw [s.canonical_eq]
  unfold Outline.ofSchema
  rw [htype, htitle]
  simp only [hdeclarations]

end SchemaTypes
