import SchemaTypes.Proofs.Table
import SchemaTypes.Schema

/-!
# Schemas that are read

Whatever the text is, a schema that is read from it has its properties in the order of their keys.

* `Json.Holds`: a property of whatever a reader takes off a text.
* `Json.holds_members`: what every member keeps holds at the end of an object.
* `Json.Record.holds_reader`: what every field keeps holds of a record.
* `Schema.Ordered`: the keys of the properties are in order, here and everywhere below.
* **`Schema.ordered_ofText`**: so they are in a schema that has been read.
-/

namespace SchemaTypes

theorem exists_of_map_eq_ok {ε α β : Type} {f : α → β} {x : Except ε α} {b : β}
    (h : x.map f = .ok b) : ∃ a, x = .ok a ∧ f a = b := by
  cases x with
  | error e => exact absurd h nofun
  | ok a => exact ⟨a, rfl, Except.ok.inj h⟩

namespace Json

/-! ## Results of readers -/

/-- If there is a result, its value has the property. -/
def Holds {α : Type} {n : Nat} (P : α → Prop) (x : Except Fault (Parsed α n)) : Prop :=
  ∀ p, x = .ok p → P p.value

section Results

variable {α β : Type} {m n : Nat} {P : α → Prop}

theorem holds_error (f : Fault) : Holds P (.error f : Except Fault (Parsed α n)) :=
  fun _ h => absurd h nofun

theorem Holds.map {Q : β → Prop} {x : Except Fault (Parsed α m)} (h : Holds P x)
    {f : Parsed α m → Parsed β n} (hf : ∀ p, P p.value → Q (f p).value) : Holds Q (x.map f) := by
  intro q hq
  cases x with
  | error e => exact absurd hq nofun
  | ok p =>
    obtain rfl := Except.ok.inj hq
    exact hf p (h p rfl)

theorem holds_bind {Q : β → Prop} {γ : Type} {x : Except Fault γ}
    {f : γ → Except Fault (Parsed β n)} (h : ∀ c, x = .ok c → Holds Q (f c)) :
    Holds Q (x >>= f) := by
  cases x with
  | error e => exact holds_error e
  | ok c => exact h c rfl

theorem holds_expecting {expected : Text}
    {value? : {n : Nat} → (p : Parsed Char n) →
      Option (Except Fault (Parsed α (p.rest.length + 1)))}
    (h : ∀ {n : Nat} (p : Parsed Char n), ∀ x ∈ value? p, Holds P x) (input : Text) :
    Holds P (expecting expected value? input) := by
  unfold expecting
  cases next? input with
  | none => exact holds_error _
  | some p =>
    dsimp only
    cases hx : value? p with
    | none => exact holds_error _
    | some x => exact (h p x hx).map fun _ hq => hq

theorem holds_contents {ι : Type} {inner : Option ι}
    {body : ι → (input : Text) → Except Fault (Parsed α (input.length + 1))}
    (h : ∀ i ∈ inner, ∀ input, Holds P (body i input)) (p : Parsed Char n) :
    Holds P (contents p inner body) := by
  unfold contents
  cases inner with
  | none => exact holds_error _
  | some i => exact h i rfl p.rest

theorem holds_optional {value : Reader α} (h : ∀ input, Holds P (value input)) (input : Text) :
    Holds (fun v : Option α => ∀ a ∈ v, P a) (optional value input) := by
  have hvalue : Holds (fun v : Option α => ∀ a ∈ v, P a)
      ((value input).map (·.map some)) :=
    (h input).map fun p hp a ha => Option.some.inj ha ▸ hp
  unfold optional
  cases next? input with
  | none => exact hvalue
  | some p =>
    dsimp only
    split
    · exact Holds.map (P := fun _ => True) (fun _ _ => trivial) fun _ _ a ha => absurd ha nofun
    · exact hvalue

end Results

/-! ## Members and fields -/

/-- **What every member keeps** holds at the end of an object. -/
theorem holds_members {σ : Type} {P : σ → Prop} {key : Reader Text} {member : MemberReader σ}
    (h : ∀ state, P state → ∀ k r, member state k = .ok r → ∀ input, Holds P (r input))
    (state : σ) (hstate : P state) (first : Bool) (input : Text) :
    Holds P (members key member state first input) := by
  suffices hall : ∀ n state first (input : Text), input.length = n → P state →
      Holds P (members key member state first input) from
    hall _ state first input rfl hstate
  intro n
  induction n using Nat.strongRecOn with
  | ind n ih =>
    intro state first input hlength hstate
    rw [members]
    refine holds_bind fun a _ => ?_
    cases a with
    | done rest hrest =>
      intro p hp
      obtain rfl := Except.ok.inj hp
      exact hstate
    | key t ht =>
      refine holds_bind fun k _ => ?_
      dsimp only
      split
      · exact holds_error _
      · next value hvalue =>
        refine holds_bind fun c _ => holds_bind fun v hv => holds_bind fun s hs => ?_
        have hshort : v.rest.length < n := by
          have := v.short
          have := c.short
          have := k.short
          omega
        have hv' : P v.value := h state hstate k.value value hvalue c.rest v hv
        have hs' : P s.value := ih _ hshort v.value false v.rest rfl hv' s hs
        intro p hp
        obtain rfl := Except.ok.inj hp
        exact hs'

namespace Record

variable {κ σ : Type} {P : σ → Prop} {r : Record κ σ}

theorem holds_positional (h : ∀ k s, P s → ∀ input, Holds P (r.field k s input)) (count : Nat)
    (s : σ) (hs : P s) (fields : List κ) (input : Text) :
    Holds P (r.positional count s fields input) := by
  induction fields generalizing count s input with
  | nil =>
    intro p hp
    obtain rfl := Except.ok.inj hp
    exact hs
  | cons k ks ih =>
    refine holds_bind (x := itemAhead (count = 0) input) fun a _ => ?_
    cases a with
    | none =>
      dsimp only
      split
      · exact holds_error _
      · intro p hp
        obtain rfl := Except.ok.inj hp
        exact hs
    | some t =>
      refine holds_bind fun v hv => holds_bind fun q hq => ?_
      have hv' : P v.value := h k s hs t.1 v hv
      have hq' : P q.value := ih (count + 1) v.value hv' v.rest q hq
      intro p hp
      obtain rfl := Except.ok.inj hp
      exact hq'

variable [DecidableEq κ]

theorem holds_member (h : ∀ k s, P s → ∀ input, Holds P (r.field k s input)) (state : σ × List κ)
    (hstate : P state.1) (key : Text) (value : Reader (σ × List κ))
    (hvalue : r.member state key = .ok value) (input : Text) :
    Holds (fun s => P s.1) (value input) := by
  obtain ⟨s, given⟩ := state
  unfold member at hvalue
  dsimp only at hvalue
  split at hvalue
  · next k _ =>
    split at hvalue
    · exact absurd hvalue nofun
    · obtain rfl := Except.ok.inj hvalue
      exact (h k s hstate input).map fun _ hp => hp
  · split at hvalue
    · exact absurd hvalue nofun
    · obtain rfl := Except.ok.inj hvalue
      exact Holds.map (P := fun _ => True) (fun _ _ => trivial) fun _ _ => hstate

/-- **What every field keeps** holds of a record. -/
theorem holds_reader {start : σ} (hstart : P start) {r : Option (Record κ σ)}
    (h : ∀ r' ∈ r, ∀ k s, P s → ∀ input, Holds P (r'.field k s input)) (expected : Text)
    (input : Text) : Holds P (reader expected start r input) := by
  refine holds_expecting (fun p x hx => ?_) input
  split at hx
  · obtain rfl := Option.some.inj hx
    refine holds_contents (fun r' hr' t => ?_) p
    have hmembers : Holds (fun s => P s.1) (members stringRest r'.member (start, []) true t) :=
      holds_members (fun state hstate k value hvalue t =>
        holds_member (h r' hr') state hstate k value hvalue t) (start, []) hstart true t
    exact hmembers.map fun _ hp => hp
  · split at hx
    · obtain rfl := Option.some.inj hx
      refine holds_contents (fun r' hr' t => ?_) p
      refine holds_bind fun q hq => holds_bind fun e _ => ?_
      have hq' : P q.value := holds_positional (h r' hr') 0 start hstart r'.fields t q hq
      intro p hp
      obtain rfl := Except.ok.inj hp
      exact hq'
    · exact absurd hx nofun

end Record

theorem holds_tableReader {α : Type} {P : α → Prop} {value : Option (Reader α)}
    (h : ∀ r ∈ value, ∀ input, Holds P (r input)) (input : Text) :
    Holds (fun t => Table.Ascending t ∧ ∀ e ∈ t, P e.2) (tableReader value input) := by
  refine holds_expecting (fun p x hx => ?_) input
  split at hx
  · obtain rfl := Option.some.inj hx
    refine holds_contents (fun r hr t => ?_) p
    have hmembers : Holds (fun t => Table.Ascending t ∧ ∀ e ∈ t, P e.2)
        (members stringRest (tableMember r) [] true t) := by
      refine holds_members (fun t ht k value hvalue input => ?_) [] ⟨List.Pairwise.nil, nofun⟩
        true t
      obtain rfl := Except.ok.inj hvalue
      refine (h r hr input).map fun v hv => ⟨ht.1.insert k v.value, fun e he => ?_⟩
      rcases Table.mem_insert he with rfl | he
      · exact hv
      · exact ht.2 e he
    exact hmembers.map fun _ hp => hp
  · exact absurd hx nofun

end Json

/-! ## Schemas -/

namespace Schema

/-- The keys of the properties are in order, here and everywhere below. -/
inductive Ordered : Schema → Prop
  | intro {s : Schema} (items : ∀ item ∈ s.items, Ordered item)
      (keys : ∀ members ∈ s.properties, Table.Ascending members)
      (members : ∀ members ∈ s.properties, ∀ m ∈ members, Ordered m.2) : Ordered s

open Json

/-- **Every keyword keeps the order.** -/
theorem holds_keywordReader {parts : PartReaders}
    (hitems : ∀ input, Holds Ordered (parts.items input))
    (hproperty : ∀ r ∈ parts.property, ∀ input, Holds Ordered (r input)) (k : Keyword) (s : Schema)
    (hs : s.Ordered) (input : Text) : Holds Ordered (keywordReader parts k s input) := by
  obtain ⟨hsitems, hskeys, hsmembers⟩ := hs
  cases k with
  | properties =>
    refine (holds_optional (holds_tableReader hproperty) input).map fun p hp => ?_
    exact ⟨hsitems, fun t ht => (hp t ht).1, fun t ht => (hp t ht).2⟩
  | items =>
    refine (holds_optional hitems input).map fun p hp => ?_
    exact ⟨hp, hskeys, hsmembers⟩
  | _ =>
    exact Holds.map (P := fun _ => True) (fun _ _ => trivial)
      fun _ _ => ⟨hsitems, hskeys, hsmembers⟩

theorem ordered_default : ({} : Schema).Ordered :=
  ⟨nofun, nofun, nofun⟩

theorem holds_readerWith {parts : Option PartReaders}
    (hitems : ∀ p ∈ parts, ∀ input, Holds Ordered (p.items input))
    (hproperty : ∀ p ∈ parts, ∀ r ∈ p.property, ∀ input, Holds Ordered (r input)) (input : Text) :
    Holds Ordered (readerWith parts input) := by
  refine Record.holds_reader ordered_default (fun r hr k s hs input => ?_) _ input
  obtain ⟨p, hp, rfl⟩ := Option.map_eq_some_iff.mp hr
  exact holds_keywordReader (hitems p hp) (hproperty p hp) k s hs input

theorem holds_reader (levels : Nat) : ∀ input, Holds Ordered (reader levels input) := by
  induction levels using Nat.strongRecOn with
  | ind levels ih =>
    match levels with
    | 0 => exact holds_readerWith nofun nofun
    | 1 =>
      refine holds_readerWith (fun p hp => ?_) fun p hp r hr => ?_
      · obtain rfl := Option.some.inj hp
        exact ih 0 (by omega)
      · obtain rfl := Option.some.inj hp
        exact absurd hr nofun
    | n + 2 =>
      refine holds_readerWith (fun p hp => ?_) fun p hp r hr => ?_
      · obtain rfl := Option.some.inj hp
        exact ih (n + 1) (by omega)
      · obtain rfl := Option.some.inj hp
        obtain rfl := Option.some.inj hr
        exact ih n (by omega)

/-- **A schema that has been read** has its properties in the order of their keys. -/
theorem ordered_ofText {text : Text} {s : Schema} (h : ofText text = .ok s) : s.Ordered := by
  unfold ofText readDocument at h
  cases hp : reader nestingLimit text with
  | error f =>
    rw [hp] at h
    exact absurd h nofun
  | ok p =>
    rw [hp] at h
    have hvalue := holds_reader nestingLimit text p hp
    dsimp only [bind, Except.bind] at h
    split at h
    · obtain rfl := Except.ok.inj h
      exact hvalue
    · exact absurd h nofun

end Schema

end SchemaTypes
