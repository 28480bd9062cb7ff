import SchemaTypes.Proofs.Json.Outcome
import SchemaTypes.Proofs.Table

/-!
# Readers and trees

A reader of values is a function of trees: whatever text a tree has, and whatever may follow it,
the reader takes the text off and gives the value of the tree, or finds a fault if there is none.

* `Tree.mark?`: the character with which a value begins.
* `Reads`: a reader gives the values that a function gives to trees.
* `foldMembers`: what the members of an object give, one after the other.
* `outcome_listBody`, `outcome_membersBody`: the contents of containers.
* `Tree.valueOf`: the values of trees.
* **`reads_valueReader`**: reading any value.
-/

namespace SchemaTypes.Json

variable {α β γ σ τ : Type}

/-! ## What a tree begins with -/

/-- The character with which a value begins; numbers have no character of their own. -/
def Tree.mark? : Tree → Option Char
  | .null => some 'n'
  | .bool true => some 't'
  | .bool false => some 'f'
  | .number _ => none
  | .string _ => some '"'
  | .array _ => some '['
  | .object _ => some '\x7b'

/-- A text of the value may begin with the character. -/
def Tree.Begins (v : Tree) (c : Char) : Prop :=
  match v.mark? with
  | some d => c = d
  | none => startsNumber c = true

/-- **The first character tells** what is written. -/
theorem Tree.Begins.eq_iff {v : Tree} {c d : Char} (h : v.Begins c) (hd : startsNumber d = false) :
    c = d ↔ v.mark? = some d := by
  unfold Begins at h
  cases hmark : v.mark? with
  | some e =>
    rw [hmark] at h
    rw [Option.some.injEq, h]
  | none =>
    rw [hmark] at h
    refine ⟨?_, nofun⟩
    rintro rfl
    exact Bool.noConfusion (hd.symm.trans h)

theorem Tree.Written.exists_begin {v : Tree} {x : Text} (h : v.Written x) :
    ∃ c r, x = c :: r ∧ v.Begins c := by
  cases v with
  | null => exact ⟨'n', _, h.trans (Text.ofString_eq _), rfl⟩
  | bool b => cases b <;> exact ⟨_, _, h.trans (Text.ofString_eq _), rfl⟩
  | number n =>
    obtain ⟨hwhole, _, fraction, exponent, _, _, rfl⟩ := h
    cases n.negative with
    | true => exact ⟨'-', _, rfl, rfl⟩
    | false =>
      obtain ⟨d, ds, hds⟩ := List.exists_cons_of_ne_nil hwhole.nonempty
      have hd : d.isDigit = true := hwhole.digits d (hds ▸ List.mem_cons_self)
      refine ⟨d, ds ++ (fraction ++ exponent), ?_, ?_⟩
      · rw [hds]
        rfl
      · show (_ || d.isDigit) = true
        rw [hd, Bool.or_true]
  | string l =>
    obtain ⟨body, _, rfl⟩ := h
    exact ⟨'"', _, rfl, rfl⟩
  | array vs =>
    cases vs with
    | nil =>
      obtain ⟨b, _, rfl⟩ := h
      exact ⟨'[', _, rfl, rfl⟩
    | cons v vs =>
      obtain ⟨b, y, c, z, _, _, _, _, rfl⟩ := h
      exact ⟨'[', _, rfl, rfl⟩
  | object ms =>
    cases ms with
    | nil =>
      obtain ⟨b, _, rfl⟩ := h
      exact ⟨'\x7b', _, rfl, rfl⟩
    | cons m ms =>
      obtain ⟨b, y, c, z, _, _, _, _, rfl⟩ := h
      exact ⟨'\x7b', _, rfl, rfl⟩

theorem Tree.Begins.not_delimiter {v : Tree} {c : Char} (h : v.Begins c) :
    isBlank c = false ∧ c ≠ ']' ∧ c ≠ '\x7d' ∧ c ≠ ',' := by
  have hne : ∀ d, startsNumber d = false → v.mark? ≠ some d → c ≠ d :=
    fun d hd hmark heq => hmark ((h.eq_iff hd).mp heq)
  have hmark : ∀ d ∈ [']', '\x7d', ',', ' ', '\n', '\t', '\r'], v.mark? ≠ some d := by
    cases v with
    | bool b => cases b <;> simp [Tree.mark?]
    | _ => simp [Tree.mark?]
  simp only [List.forall_mem_cons] at hmark
  obtain ⟨h1, h2, h3, h4, h5, h6, h7, -⟩ := hmark
  refine ⟨?_, hne _ rfl h1, hne _ rfl h2, hne _ rfl h3⟩
  simp [isBlank, hne _ rfl h4, hne _ rfl h5, hne _ rfl h6, hne _ rfl h7]

/-! ## Readers -/

/-- The reader gives to every text of a tree, whatever may follow it, the value that the function
gives to the tree; the values that are read are looked at by a function. -/
def Reads (r : Reader α) (g : α → β) (f : Tree → Option β) : Prop :=
  ∀ (v : Tree) (x b rest : Text), v.Written x → Blanks b → Delimited rest →
    outcome g (r (b ++ (x ++ rest))) = (f v).map fun a => (a, rest)

theorem Reads.map {r : Reader α} {g : α → β} {f : Tree → Option β} (h : Reads r g f)
    (k : β → γ) : Reads r (k ∘ g) fun v => (f v).map k := by
  intro v x b rest hx hb hrest
  rw [outcome_eq_map, h v x b rest hx hb hrest, Option.map_map, Option.map_map]
  rfl

/-! ## Containers -/

theorem delimited_writtenItems {vs : List Tree} {y rest : Text} (h : WrittenItems vs y) :
    Delimited (y ++ rest) := by
  intro c hc
  cases vs with
  | nil =>
    obtain rfl : y = [']'] := h
    obtain rfl : ']' = c := Option.some.inj hc
    exact .inr (.inr (.inl rfl))
  | cons v vs =>
    obtain ⟨b, x, d, z, _, _, _, _, rfl⟩ := h
    obtain rfl : ',' = c := Option.some.inj hc
    exact .inr (.inl rfl)

theorem delimited_writtenMembers {ms : List (Literal × Tree)} {y rest : Text}
    (h : WrittenMembers ms y) : Delimited (y ++ rest) := by
  intro c hc
  cases ms with
  | nil =>
    obtain rfl : y = ['\x7d'] := h
    obtain rfl : '\x7d' = c := Option.some.inj hc
    exact .inr (.inr (.inr rfl))
  | cons m ms =>
    obtain ⟨b, x, d, z, _, _, _, _, rfl⟩ := h
    obtain rfl : ',' = c := Option.some.inj hc
    exact .inr (.inl rfl)

section Ahead

variable {b d : Text} (hb : Blanks b) (hd : Blanks d)

include hb in
theorem itemAhead_end (first : Bool) (r : Text) : itemAhead first (b ++ ']' :: r) = .ok none := by
  obtain ⟨h, hnext⟩ := next?_append hb (c := ']') (by decide) r
  rw [itemAhead, hnext]
  rfl

include hb in
theorem itemAhead_first {v : Tree} {x : Text} (hx : v.Written x) (r : Text) :
    ∃ h, itemAhead true (b ++ (x ++ r)) = .ok (some ⟨x ++ r, h⟩) := by
  obtain ⟨c, x, rfl, hc⟩ := hx.exists_begin
  obtain ⟨hblank, hend, _, _⟩ := hc.not_delimiter
  obtain ⟨h, hnext⟩ := next?_append hb hblank (x ++ r)
  refine ⟨h, ?_⟩
  show itemAhead true (b ++ c :: (x ++ r)) = _
  rw [itemAhead, hnext]
  dsimp only
  rw [if_neg hend]
  rfl

include hb hd in
theorem itemAhead_comma {v : Tree} {x : Text} (hx : v.Written x) (r : Text) :
    ∃ h, itemAhead false (b ++ ',' :: (d ++ (x ++ r))) = .ok (some ⟨x ++ r, h⟩) := by
  obtain ⟨c, x, rfl, hc⟩ := hx.exists_begin
  obtain ⟨hblank, hend, _, _⟩ := hc.not_delimiter
  obtain ⟨h, hnext⟩ := next?_append hb (c := ',') (by decide) (d ++ c :: (x ++ r))
  obtain ⟨h', hnext'⟩ := next?_append hd hblank (x ++ r)
  refine ⟨Nat.le_of_lt (Nat.lt_of_le_of_lt h' h), ?_⟩
  show itemAhead false (b ++ ',' :: (d ++ c :: (x ++ r))) = _
  rw [itemAhead, hnext]
  dsimp only
  rw [if_neg (by decide), if_neg (by decide), if_pos rfl, hnext']
  dsimp only
  rw [if_neg hend]
  rfl

include hb in
theorem keyAhead_end (first : Bool) (r : Text) :
    ∃ h, keyAhead first (b ++ '\x7d' :: r) = .ok (.done r h) := by
  obtain ⟨h, hnext⟩ := next?_append hb (c := '\x7d') (by decide) r
  refine ⟨h, ?_⟩
  rw [keyAhead, hnext]
  rfl

include hb in
theorem keyAhead_first (r : Text) : ∃ h, keyAhead true (b ++ '"' :: r) = .ok (.key r h) := by
  obtain ⟨h, hnext⟩ := next?_append hb (c := '"') (by decide) r
  refine ⟨h, ?_⟩
  rw [keyAhead, hnext]
  rfl

include hb hd in
theorem keyAhead_comma (r : Text) :
    ∃ h, keyAhead false (b ++ ',' :: (d ++ '"' :: r)) = .ok (.key r h) := by
  obtain ⟨h, hnext⟩ := next?_append hb (c := ',') (by decide) (d ++ '"' :: r)
  obtain ⟨h', hnext'⟩ := next?_append hd (c := '"') (by decide) r
  refine ⟨Nat.lt_trans h' h, ?_⟩
  rw [keyAhead, hnext]
  dsimp only
  rw [if_neg (by decide), if_neg (by decide), if_pos rfl, hnext']
  rfl

include hb in
theorem outcome_colon (r : Text) : outcome id (colon (b ++ ':' :: r)) = some ((), r) := by
  obtain ⟨h, hnext⟩ := next?_append hb (c := ':') (by decide) r
  rw [colon, hnext]
  rfl

include hb in
theorem outcome_listEnd (r : Text) : outcome id (listEnd (b ++ ']' :: r)) = some ((), r) := by
  obtain ⟨h, hnext⟩ := next?_append hb (c := ']') (by decide) r
  rw [listEnd, hnext]
  rfl

end Ahead

/-! ## Contents of lists -/

theorem outcome_items_of_ahead {item : Reader α} {g : α → β} {f : Tree → Option β}
    (hitem : Reads item g f) {first : Bool} {input t : Text} {h : t.length ≤ input.length}
    (hahead : itemAhead first input = .ok (some ⟨t, h⟩)) {v : Tree} {x r : Text}
    (hx : v.Written x) (hr : Delimited r) (ht : t = x ++ r) {l : Option (List β)} {e : Text}
    (hnext : outcome (List.map g) (items item false r) = l.map fun l => (l, e)) :
    outcome (List.map g) (items item first input) =
      ((f v).bind fun a => l.map (a :: ·)).map fun l => (l, e) := by
  subst ht
  have hvalue := hitem v x [] r hx .nil hr
  rw [List.nil_append] at hvalue
  rw [items, Option.map_bind]
  refine (outcome_bind _ hahead).trans (outcome_bind_of_eq_map hvalue fun p hp => ?_)
  rw [← hp] at hnext
  exact outcome_bind_pure (k := (g p.value :: ·)) hnext (fun _ => rfl) fun _ => rfl

theorem mapM_cons_eq (f : Tree → Option β) (v : Tree) (vs : List Tree) :
    (v :: vs).mapM f = (f v).bind fun a => (vs.mapM f).map (a :: ·) := by
  rw [List.mapM_cons]
  cases f v with
  | none => rfl
  | some a => cases vs.mapM f <;> rfl

theorem outcome_items {item : Reader α} {g : α → β} {f : Tree → Option β} (hitem : Reads item g f)
    (rest : Text) : ∀ {vs : List Tree} {y b : Text}, WrittenItems vs y → Blanks b →
      ∃ c, Blanks c ∧ outcome (List.map g) (items item false (b ++ (y ++ rest))) =
        (vs.mapM f).map fun l => (l, c ++ ']' :: rest) := by
  intro vs
  induction vs with
  | nil =>
    rintro _ b rfl hb
    refine ⟨b, hb, ?_⟩
    rw [items, List.singleton_append, itemAhead_end hb]
    rfl
  | cons v vs ih =>
    rintro _ b ⟨d, x, e, z, hd, hx, he, hz, rfl⟩ hb
    obtain ⟨c, hc, hitems⟩ := ih hz he
    obtain ⟨h, hahead⟩ := itemAhead_comma hb hd hx (e ++ (z ++ rest))
    refine ⟨c, hc, ?_⟩
    have htext : b ++ (',' :: (d ++ (x ++ (e ++ z))) ++ rest) =
        b ++ ',' :: (d ++ (x ++ (e ++ (z ++ rest)))) := by
      simp
    rw [htext, mapM_cons_eq]
    exact outcome_items_of_ahead hitem hahead hx (.append he (delimited_writtenItems hz)) rfl hitems

theorem outcome_listBody_of_items {item : Reader α} {g : α → β} {t c rest : Text}
    {l : Option (List β)} (hc : Blanks c)
    (hitems : outcome (List.map g) (items item true t) = l.map fun l => (l, c ++ ']' :: rest)) :
    outcome (List.map g) (listBody item t) = l.map fun l => (l, rest) := by
  rw [Option.map_eq_bind]
  refine outcome_bind_of_eq_map hitems fun p hp => ?_
  have hlist := outcome_listEnd hc rest
  rw [← hp] at hlist
  exact outcome_bind_pure (k := fun _ => p.value.map g) (o := some ()) hlist (fun _ => rfl)
    fun _ => rfl

theorem outcome_listBody {item : Reader α} {g : α → β} {f : Tree → Option β}
    (hitem : Reads item g f) {vs : List Tree} {x : Text} (h : (Tree.array vs).Written x)
    (rest : Text) : ∃ t, x = '[' :: t ∧
      outcome (List.map g) (listBody item (t ++ rest)) = (vs.mapM f).map fun l => (l, rest) := by
  cases vs with
  | nil =>
    obtain ⟨b, hb, rfl⟩ := h
    refine ⟨_, rfl, outcome_listBody_of_items hb ?_⟩
    rw [items, List.append_assoc, List.singleton_append, itemAhead_end hb]
    rfl
  | cons v vs =>
    obtain ⟨b, y, d, z, hb, hy, hd, hz, rfl⟩ := h
    obtain ⟨c, hc, hitems⟩ := outcome_items hitem rest hz hd
    obtain ⟨hle, hahead⟩ := itemAhead_first hb hy (d ++ (z ++ rest))
    have htext : b ++ (y ++ (d ++ z)) ++ rest = b ++ (y ++ (d ++ (z ++ rest))) := by
      simp
    refine ⟨_, rfl, outcome_listBody_of_items hc ?_⟩
    rw [htext, mapM_cons_eq]
    exact outcome_items_of_ahead hitem hahead hy (.append hd (delimited_writtenItems hz)) rfl hitems

/-! ## Contents of objects -/

/-- What the members of an object give, one after the other; `step` says what a key and a value do
to what the members before them gave. -/
def foldMembers (step : τ → Text → Tree → Option τ) (s : τ) (ms : List (Literal × Tree)) :
    Option τ :=
  ms.foldlM (fun s m => m.1.text?.bind fun key => step s key m.2) s

theorem foldMembers_cons (step : τ → Text → Tree → Option τ) (s : τ) (m : Literal × Tree)
    (ms : List (Literal × Tree)) :
    foldMembers step s (m :: ms) =
      (m.1.text?.bind fun key => step s key m.2).bind (foldMembers step · ms) :=
  List.foldlM_cons

/-- The way in which an object is read gives what the function gives. -/
def ReadsMembers (member : MemberReader σ) (g : σ → τ) (step : τ → Text → Tree → Option τ) :
    Prop :=
  ∀ s key, match member s key with
    | .ok value => Reads value g (step (g s) key)
    | .error _ => ∀ v, step (g s) key v = none

theorem WrittenMember.exists_quote {m : Literal × Tree} {x : Text} (h : WrittenMember m x) :
    ∃ t, x = '"' :: t := by
  obtain ⟨k, v⟩ := m
  obtain ⟨body, b, c, y, _, _, _, _, rfl⟩ := h
  exact ⟨_, rfl⟩

section Members

variable {member : MemberReader σ} {g : σ → τ} {step : τ → Text → Tree → Option τ}
  (hmember : ReadsMembers member g step)

include hmember

theorem outcome_members_of_ahead {first : Bool} {input t : Text} {h : t.length < input.length}
    (hahead : keyAhead first input = .ok (.key t h)) {m : Literal × Tree} {x r : Text}
    (hx : WrittenMember m x) (hr : Delimited r) (ht : '"' :: t = x ++ r)
    {ms : List (Literal × Tree)} {rest : Text}
    (hnext : ∀ s, outcome g (members stringRest member s false r) =
      (foldMembers step (g s) ms).map fun a => (a, rest)) (s : σ) :
    outcome g (members stringRest member s first input) =
      (foldMembers step (g s) (m :: ms)).map fun a => (a, rest) := by
  obtain ⟨k, v⟩ := m
  obtain ⟨body, b, c, y, hk, hb, hc, hy, rfl⟩ := hx
  obtain rfl : t = body ++ '"' :: (b ++ ':' :: (c ++ (y ++ r))) := by
    rw [(List.cons.inj ht).2]
    simp
  have hkey := outcome_stringRest k hk id (b ++ ':' :: (c ++ (y ++ r)))
  rw [members, foldMembers_cons, Option.bind_assoc, Option.map_bind]
  refine (outcome_bind g hahead).trans (outcome_bind_of_eq_map hkey fun p hp => ?_)
  have hreads := hmember s p.value
  dsimp only [id, Function.comp_apply]
  cases hm : member s p.value with
  | error cause =>
    rw [hm] at hreads
    rw [hreads]
    rfl
  | ok value =>
    rw [hm] at hreads
    have hcolon := outcome_colon hb (c ++ (y ++ r))
    rw [← hp] at hcolon
    refine outcome_bind_of_eq_some hcolon fun q _ hq => ?_
    have hvalue : outcome g (value q.rest) = (step (g s) p.value v).map fun a => (a, r) := by
      rw [hq]
      exact hreads v y c r hy hc hr
    rw [Option.map_bind]
    refine outcome_bind_of_eq_map hvalue fun w hw => ?_
    have hmore : outcome g (members stringRest member w.value false w.rest) =
        (foldMembers step (g w.value) ms).map fun a => (a, rest) := by
      rw [hw]
      exact hnext w.value
    refine Eq.trans (outcome_bind_pure (k := id) hmore (fun _ => rfl) fun _ => rfl) ?_
    rw [Option.map_id]
    rfl

theorem outcome_members (rest : Text) : ∀ {ms : List (Literal × Tree)} {y b : Text},
    WrittenMembers ms y → Blanks b → ∀ s,
      outcome g (members stringRest member s false (b ++ (y ++ rest))) =
        (foldMembers step (g s) ms).map fun a => (a, rest) := by
  intro ms
  induction ms with
  | nil =>
    rintro _ b rfl hb s
    obtain ⟨h, hahead⟩ := keyAhead_end hb false rest
    rw [members, List.singleton_append, hahead]
    rfl
  | cons m ms ih =>
    rintro _ b ⟨d, x, e, z, hd, hx, he, hz, rfl⟩ hb s
    obtain ⟨t, rfl⟩ := hx.exists_quote
    obtain ⟨h, hahead⟩ := keyAhead_comma hb hd (t ++ (e ++ (z ++ rest)))
    have htext : b ++ (',' :: (d ++ ('"' :: t ++ (e ++ z))) ++ rest) =
        b ++ ',' :: (d ++ '"' :: (t ++ (e ++ (z ++ rest)))) := by
      simp
    rw [htext]
    exact outcome_members_of_ahead hmember hahead hx (.append he (delimited_writtenMembers hz)) rfl
      (ih hz he) s

theorem outcome_membersBody {ms : List (Literal × Tree)} {x : Text}
    (h : (Tree.object ms).Written x) (rest : Text) : ∃ t, x = '\x7b' :: t ∧ ∀ s,
      outcome g (members stringRest member s true (t ++ rest)) =
        (foldMembers step (g s) ms).map fun a => (a, rest) := by
  cases ms with
  | nil =>
    obtain ⟨b, hb, rfl⟩ := h
    refine ⟨_, rfl, fun s => ?_⟩
    obtain ⟨h, hahead⟩ := keyAhead_end hb true rest
    rw [List.append_assoc, List.singleton_append, members, hahead]
    rfl
  | cons m ms =>
    obtain ⟨b, y, d, z, hb, hy, hd, hz, rfl⟩ := h
    obtain ⟨t, rfl⟩ := hy.exists_quote
    obtain ⟨h, hahead⟩ := keyAhead_first hb (t ++ (d ++ (z ++ rest)))
    have htext : b ++ ('"' :: t ++ (d ++ z)) ++ rest =
        b ++ '"' :: (t ++ (d ++ (z ++ rest))) := by
      simp
    refine ⟨_, rfl, fun s => ?_⟩
    rw [htext]
    exact outcome_members_of_ahead hmember hahead hy (.append hd (delimited_writtenMembers hz)) rfl
      (outcome_members hmember rest hz hd) s

end Members

/-! ## The values of trees -/

/-- The values under the keys of an object. -/
def tableOf (f : Tree → Option β) (ms : List (Literal × Tree)) : Option (Table β) :=
  foldMembers (fun t key v => (f v).map (Table.insert key · t)) [] ms

/-- The value of a tree, given the values in containers; without them no container has a value. -/
def Tree.valueOf (inner : Option (Tree → Option Json)) : Tree → Option Json
  | .null => some .null
  | .bool b => some (.bool b)
  | .number n => (n.number []).toOption.map .number
  | .string l => l.text?.map .string
  | .array vs => inner.bind fun f => (vs.mapM f).map .array
  | .object ms => inner.bind fun f => (tableOf f ms).map .object

/-! ## Any value -/

theorem outcome_numberFrom {n : Numeral} {x : Text} (hx : n.Written x) {rest : Text}
    (hrest : Delimited rest) :
    outcome id (numberFrom (x ++ rest)) = (n.number []).toOption.map fun v => (v, rest) := by
  have hnumeral := outcome_numeral hx .endInValue hrest.numberEnd
  refine outcome_bind_of_eq_some hnumeral fun p hvalue htail => ?_
  obtain rfl : p.value = n := hvalue
  rw [← toOption_number p.value p.rest]
  cases p.value.number p.rest with
  | error fault => rfl
  | ok v => exact congrArg (fun r => some (v, r)) htail

theorem readsMembers_tableMember {r : Reader α} {g : α → β} {f : Tree → Option β}
    (h : Reads r g f) :
    ReadsMembers (tableMember r) (List.map (Prod.map id g))
      (fun t key v => (f v).map (Table.insert key · t)) := by
  intro t key v x b rest hx hb hrest
  have hvalue := h v x b rest hx hb hrest
  dsimp only
  exact outcome_of_map (k := (Table.insert key · (t.map (Prod.map id g)))) hvalue
    (fun p => Table.map_insert g key p.value t) fun _ => rfl

theorem outcome_tableBody {r : Reader α} {g : α → β} {f : Tree → Option β} (h : Reads r g f)
    {ms : List (Literal × Tree)} {x : Text} (hx : (Tree.object ms).Written x) (rest : Text) :
    ∃ t, x = '\x7b' :: t ∧ outcome (List.map (Prod.map id g)) (tableBody r (t ++ rest)) =
      (tableOf f ms).map fun a => (a, rest) := by
  obtain ⟨t, rfl, hbody⟩ := outcome_membersBody (readsMembers_tableMember h) hx rest
  refine ⟨t, rfl, ?_⟩
  refine Eq.trans ?_ (hbody [])
  unfold tableBody
  cases members stringRest (tableMember r) [] true (t ++ rest) <;> rfl

section Scalars

variable {x b : Text} (hb : Blanks b) (rest : Text)

include hb

theorem next?_written {v : Tree} (hx : v.Written x) :
    ∃ c t h, x = c :: t ∧ v.Begins c ∧ next? (b ++ (x ++ rest)) = some ⟨c, t ++ rest, h⟩ := by
  obtain ⟨c, t, rfl, hc⟩ := hx.exists_begin
  obtain ⟨h, hnext⟩ := next?_append hb hc.not_delimiter.1 (t ++ rest)
  exact ⟨c, t, h, rfl, hc, hnext⟩

end Scalars

theorem outcome_word {c : Char} {t whole : Text} (letters : Text) (hx : c :: t = whole)
    (hwhole : whole = c :: letters) (rest : Text) :
    outcome id (word letters (t ++ rest)) = (some ()).map fun u => (u, rest) := by
  obtain ⟨-, rfl⟩ := List.cons.inj (hx.trans hwhole)
  obtain ⟨h, hword⟩ := word_append t rest
  rw [hword]
  rfl

theorem outcome_string {l : Literal} {c : Char} {t : Text}
    (hx : (Tree.string l).Written (c :: t)) (rest : Text) :
    outcome id (stringRest (t ++ rest)) = l.text?.map fun s => (s, rest) := by
  obtain ⟨body, hbody, ht⟩ := hx
  rw [(List.cons.inj ht).2, List.append_assoc]
  exact outcome_stringRest l hbody id rest

/-- **Reading any value.** -/
theorem reads_valueReader {inner : Option (Reader Json)} {f : Option (Tree → Option Json)}
    (h : Option.Rel (Reads · id ·) inner f) : Reads (valueReader inner) id (Tree.valueOf f) := by
  intro v x b rest hx hb hrest
  obtain ⟨c, t, hs, rfl, hc, hnext⟩ := next?_written hb rest hx
  rw [valueReader, hnext]
  dsimp only
  cases v with
  | null =>
    obtain rfl := hc
    exact outcome_of_map (k := fun _ => null) (outcome_word "ull" hx (by cbv) rest)
      (fun _ => rfl) fun _ => rfl
  | bool value =>
    cases value with
    | true =>
      obtain rfl := hc
      exact outcome_of_map (k := fun _ => bool true) (outcome_word "rue" hx (by cbv) rest)
        (fun _ => rfl) fun _ => rfl
    | false =>
      obtain rfl := hc
      exact outcome_of_map (k := fun _ => bool false) (outcome_word "alse" hx (by cbv) rest)
        (fun _ => rfl) fun _ => rfl
  | number n =>
    have hne : ∀ d, startsNumber d = false → c ≠ d :=
      fun d hd heq => Bool.false_ne_true (hd.symm.trans (heq ▸ hc))
    split
    case h_9 =>
      rw [if_pos (show startsNumber c = true from hc)]
      exact outcome_of_map (outcome_numberFrom hx hrest) (fun _ => rfl) fun _ => rfl
    all_goals exact absurd rfl (hne _ rfl)
  | string l =>
    obtain rfl := hc
    exact outcome_of_map (outcome_string hx rest) (fun _ => rfl) fun _ => rfl
  | array vs =>
    obtain rfl := hc
    cases h with
    | none => rfl
    | some h =>
      obtain ⟨t', ht, hlist⟩ := outcome_listBody h hx rest
      obtain rfl := (List.cons.inj ht).2
      exact outcome_of_map hlist (fun p => congrArg array (List.map_id _).symm) fun _ => rfl
  | object ms =>
    obtain rfl := hc
    cases h with
    | none => rfl
    | some h =>
      obtain ⟨t', ht, htable⟩ := outcome_tableBody h hx rest
      obtain rfl := (List.cons.inj ht).2
      exact outcome_of_map htable (fun p => congrArg object (by simp)) fun _ => rfl

end SchemaTypes.Json
