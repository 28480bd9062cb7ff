import SchemaTypes.Proofs.Declaration.Order
import SchemaTypes.Proofs.Generation.Block

/-!
# Sound declarations

Whatever a schema is, its declarations can be written.

* `Declarations.Sound`: all types and enumerations are sound.
* `sound_property`: so is every property that is made in front of sound declarations.
* `Initializer.ofDefault?_cases`: the initializers that there are.
* **`sound_ofSchema`**: the declarations of a schema are sound.
* `Outline.controlFree_of_ofText`: no control is in an initializer.
-/

namespace SchemaTypes

/-- All types and enumerations are sound. -/
structure Declarations.Sound (d : Declarations) : Prop where
  types : ∀ e ∈ d.types, e.2.Sound
  enums : ∀ e ∈ d.enums, e.2.Sound

/-! ## Properties -/

theorem namesSound_typeExpr (dates : DateType) (key : Text) (s : Schema) :
    (typeExpr dates key s).NamesSound := by
  induction s using Schema.induction with
  | h s hi _ =>
    rw [typeExpr_eq]
    cases s.shape with
    | enumeration values => exact (typeName_typeNameOf key s.title).characters
    | record => exact (typeName_typeNameOf key s.title).characters
    | date => cases dates <;> trivial
    | array =>
      cases he : s.items with
      | none => trivial
      | some item => exact hi item he
    | _ => trivial

/-- **The initializers that a default can give**: its value as it is, a date, or a member of an
enumeration. -/
theorem Initializer.ofDefault?_cases {enums : Table EnumDeclaration} {type : TypeExpr}
    {value : Json} {i : Initializer} (h : ofDefault? enums type value = some i) :
    i = .literal value ∨ (∃ t, i = .date t) ∨
      ∃ e m, Table.get? enums type.text = some e ∧ m ∈ e.members ∧
        i = .member type.text m.name := by
  unfold ofDefault? at h
  split at h
  · split_ifs at h
    exact .inl (Option.some.inj h).symm
  · split at h
    · next e hget =>
      simp only [Option.bind_eq_bind, Option.bind_eq_some_iff] at h
      obtain ⟨t, _, m, hm, hi⟩ := h
      exact .inr (.inr ⟨e, m, hget, List.mem_of_find?_eq_some hm, (Option.some.inj hi).symm⟩)
    · unfold ofText? at h
      split_ifs at h
      · exact .inl (Option.some.inj h).symm
      · exact .inl (Option.some.inj h).symm
      · exact .inl (Option.some.inj h).symm
      · obtain ⟨t, _, rfl⟩ := Option.map_eq_some_iff.mp h
        exact .inr (.inl ⟨t, rfl⟩)

/-- **The initializer that a default gives** is neutral. -/
theorem neutral_ofDefault? {enums : Table EnumDeclaration} (he : ∀ e ∈ enums, e.2.Sound)
    {type : TypeExpr} (ht : type.NamesSound) {value : Json} {i : Initializer}
    (h : Initializer.ofDefault? enums type value = some i) : Neutral i.text := by
  rcases Initializer.ofDefault?_cases h with rfl | ⟨t, rfl⟩ | ⟨e, m, hget, hm, rfl⟩
  · exact Json.neutral_compact value
  · exact .append (.append (neutral_word _ (by decide)) (Json.neutral_stringLiteral t))
      (neutral_word _ (by decide))
  · have hname := (he _ (Table.mem_of_get? hget)).members m hm
    exact ht.neutral_text.append (neutral_inert (.append (x := ['.']) (by decide) hname.inert))

theorem noControl_ofDefault? {enums : Table EnumDeclaration} (he : ∀ e ∈ enums, e.2.Sound)
    {type : TypeExpr} (ht : type.NamesSound) {value : Json} {i : Initializer}
    (h : Initializer.ofDefault? enums type value = some i) : NoControl i.text := by
  rcases Initializer.ofDefault?_cases h with rfl | ⟨t, rfl⟩ | ⟨e, m, hget, hm, rfl⟩
  · exact Json.noControl_compact value
  · exact .append (.append (.of_string (by decide)) (Json.noControl_stringLiteral t))
      (.of_string (by decide))
  · have hname := (he _ (Table.mem_of_get? hget)).members m hm
    exact ht.noControl_text.append (.append (s := ['.']) (by decide) hname.noControl)

theorem sound_property {dates : DateType} {d : Declarations} (hd : d.Sound)
    (required : Option (List Text)) (key : Text) (s : Schema) :
    (Property.ofSchema required d.enums key s (typeExpr dates key s)).Sound where
  type := namesSound_typeExpr dates key s
  initializer i hi := by
    obtain ⟨value, _, h⟩ := Option.bind_eq_some_iff.mp hi
    exact neutral_ofDefault? hd.enums (namesSound_typeExpr dates key s) h

/-! ## Declarations -/

theorem Declarations.Sound.addType {d : Declarations} (h : d.Sound) {t : TypeDeclaration}
    (ht : t.Sound) : (d.addType t).Sound where
  types e he := by
    rcases Table.mem_insert he with rfl | he
    · exact ht
    · exact h.types e he
  enums := h.enums

theorem Declarations.Sound.addEnum {d : Declarations} (h : d.Sound) {e : EnumDeclaration}
    (he : e.Sound) : (d.addEnum e).Sound where
  types := h.types
  enums a ha := by
    rcases Table.mem_insert ha with rfl | ha
    · exact he
    · exact h.enums a ha

theorem grows_sound (dates : DateType) : Grows dates Declarations.Sound Property.Sound where
  enumeration _ key s _ hd _ :=
    hd.addEnum ⟨typeName_typeNameOf key s.title, fun _ hm => nameText_enumMembers hm⟩
  property _ required key s hd := sound_property hd required key s
  record _ key s _ hd hp := hd.addType ⟨typeName_typeNameOf key s.title, hp⟩

/-- **The declarations of a schema are sound.** -/
theorem sound_ofSchema (dates : DateType) {name : Text} (hname : TypeName name) (s : Schema) :
    (Declarations.ofSchema dates name s).Sound :=
  (grows_sound dates).ofSchema ⟨by simp, by simp⟩ name s fun _ _ hd hp => hd.addType ⟨hname, hp⟩

theorem Outline.sound_of_ofText {dates : DateType} {schema : Text} {o : Outline}
    (h : ofText dates schema = .ok o) : o.declarations.Sound := by
  obtain ⟨s, _, _, rfl, _⟩ := exists_schema_of_ofText h
  exact sound_ofSchema dates (typeName_rootName s.title) s

/-! ## Initializers without controls -/

/-- No control is in the initializer of the property. -/
def Property.ControlFree (p : Property) : Prop :=
  ∀ i ∈ p.initializer, NoControl i.text

/-- The declarations are sound, and no control is in an initializer. -/
structure Declarations.ControlFree (d : Declarations) : Prop where
  sound : d.Sound
  properties : ∀ e ∈ d.types, ∀ p ∈ e.2.properties, p.ControlFree

theorem controlFree_property {dates : DateType} {d : Declarations} (hd : d.Sound)
    (required : Option (List Text)) (key : Text) (s : Schema) :
    (Property.ofSchema required d.enums key s (typeExpr dates key s)).ControlFree := by
  intro i hi
  obtain ⟨value, _, h⟩ := Option.bind_eq_some_iff.mp hi
  exact noControl_ofDefault? hd.enums (namesSound_typeExpr dates key s) h

theorem Declarations.ControlFree.addType {d : Declarations} (h : d.ControlFree)
    {t : TypeDeclaration} (ht : t.Sound) (hp : ∀ p ∈ t.properties, p.ControlFree) :
    (d.addType t).ControlFree where
  sound := h.sound.addType ht
  properties e he := by
    rcases Table.mem_insert he with rfl | he
    · exact hp
    · exact h.properties e he

theorem grows_controlFree (dates : DateType) :
    Grows dates Declarations.ControlFree fun p => p.Sound ∧ p.ControlFree where
  enumeration d key s values hd hs :=
    ⟨(grows_sound dates).enumeration d key s values hd.sound hs, hd.properties⟩
  property _ required key s hd :=
    ⟨sound_property hd.sound required key s, controlFree_property hd.sound required key s⟩
  record _ key s _ hd hp :=
    hd.addType ⟨typeName_typeNameOf key s.title, fun p h => (hp p h).1⟩ fun p h => (hp p h).2

/-- **No control is in an initializer of an outline.** -/
theorem Outline.controlFree_of_ofText {dates : DateType} {schema : Text} {o : Outline}
    (h : ofText dates schema = .ok o) : o.declarations.ControlFree := by
  obtain ⟨s, _, _, rfl, _⟩ := exists_schema_of_ofText h
  have hempty : ({} : Declarations).ControlFree := ⟨⟨by simp, by simp⟩, by simp⟩
  refine (grows_controlFree dates).ofSchema hempty _ s fun d properties hd hp => ?_
  exact hd.addType ⟨typeName_rootName s.title, fun p h => (hp p h).1⟩ fun p h => (hp p h).2

end SchemaTypes
