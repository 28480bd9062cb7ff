import SchemaTypes.Proofs.Json.Reading

/-!
# Passing over values

What is passed over is taken off the front of a text like what is read, whatever it is and however
deep its containers are nested.

* `Tree.induction`: from what a container holds to the container.
* `behind`: what comes of going on behind a value or an opening bracket.
* `behind_writtenItems`, `behind_writtenMembers`: up to the end of a container.
* **`reads_skipValue`**: passing over a value.
-/

namespace SchemaTypes.Json

/-- **Induction over trees**: from what a container holds to the container. -/
theorem Tree.induction {motive : Tree → Prop} (hnull : motive .null)
    (hbool : ∀ b, motive (.bool b)) (hnumber : ∀ n, motive (.number n))
    (hstring : ∀ l, motive (.string l))
    (harray : ∀ vs, (∀ v ∈ vs, motive v) → motive (.array vs))
    (hobject : ∀ ms : List (Literal × Tree), (∀ m ∈ ms, motive m.2) → motive (.object ms)) :
    (v : Tree) → motive v
  | .null => hnull
  | .bool b => hbool b
  | .number n => hnumber n
  | .string l => hstring l
  | .array vs => harray vs fun v _ =>
    Tree.induction hnull hbool hnumber hstring harray hobject v
  | .object ms => hobject ms fun m _ =>
    Tree.induction hnull hbool hnumber hstring harray hobject m.2
termination_by v => sizeOf v
decreasing_by
  · next hv =>
    have := List.sizeOf_lt_of_mem hv
    simp +arith
    omega
  · next hm =>
    have := List.sizeOf_lt_of_mem hm
    have : sizeOf m.2 < sizeOf m := by
      cases m
      simp +arith
    simp +arith
    omega

/-! ## Going on -/

/-- What comes of going on in the containers that are open. -/
def goOn : List Enclosing × Text → Option (Unit × Text)
  | ([], t) => some ((), t)
  | (e :: stack, t) =>
    (outcome id (keySkip e t)).bind fun k => outcome id (skipFrom (e :: stack) k.2)

/-- What comes of going on behind a value or an opening bracket, in the containers around it. -/
def behind (afterBracket : Bool) (stack : List Enclosing) (t : Text) : Option (Unit × Text) :=
  (outcome id (endSkip afterBracket stack t)).bind goOn

theorem outcome_skipFrom (stack : List Enclosing) {input rest : Text} {e : Option Enclosing}
    (h : outcome id (headSkip input) = some (e, rest)) :
    outcome id (skipFrom stack input) = behind e.isSome (e.toList ++ stack) rest := by
  rw [skipFrom]
  refine outcome_bind_of_eq_some h fun p hvalue hrest => ?_
  subst hvalue hrest
  dsimp only [id]
  cases p.value
  all_goals
    refine outcome_bind_eq fun s => ?_
    dsimp only [id]
    cases s.value with
    | nil => rfl
    | cons e stack =>
      refine outcome_bind_eq fun k => ?_
      cases skipFrom (e :: stack) k.rest <;> rfl

section Ahead

variable {b : Text} (hb : Blanks b) (e : Enclosing) (stack : List Enclosing)

include hb

theorem behind_close (afterBracket : Bool) (r : Text) :
    behind afterBracket (e :: stack) (b ++ e.close :: r) = behind false stack r := by
  obtain ⟨h, hnext⟩ := next?_append hb (c := e.close) (by cases e <;> decide) r
  unfold behind
  rw [endSkip, hnext]
  simp only [if_true]
  generalize endSkip false stack r = ended
  cases ended <;> rfl

theorem behind_first {c : Char} (hc : isBlank c = false) (hend : c ≠ e.close) (r : Text) :
    behind true (e :: stack) (b ++ c :: r) = goOn (e :: stack, c :: r) := by
  obtain ⟨h, hnext⟩ := next?_append hb hc r
  unfold behind
  rw [endSkip, hnext]
  simp only [if_neg hend, if_true]
  rfl

theorem behind_comma (r : Text) :
    behind false (e :: stack) (b ++ ',' :: r) = goOn (e :: stack, r) := by
  obtain ⟨h, hnext⟩ := next?_append hb (c := ',') (by decide) r
  unfold behind
  rw [endSkip, hnext]
  simp only [if_neg (show ',' ≠ e.close by cases e <;> decide), if_true, Bool.false_eq_true,
    if_false]
  rfl

end Ahead

theorem goOn_list (stack : List Enclosing) (t : Text) :
    goOn (.list :: stack, t) = outcome id (skipFrom (.list :: stack) t) := rfl

theorem goOn_object {b c body : Text} {l : Literal} (hb : Blanks b) (hl : l.Written body)
    (hc : Blanks c) (stack : List Enclosing) (r : Text) :
    goOn (.object :: stack, b ++ '"' :: (body ++ '"' :: (c ++ ':' :: r))) =
      outcome id (skipFrom (.object :: stack) r) := by
  obtain ⟨h, hnext⟩ := next?_append hb (c := '"') (by decide) (body ++ '"' :: (c ++ ':' :: r))
  have hkey : outcome id (keySkip .object (b ++ '"' :: (body ++ '"' :: (c ++ ':' :: r)))) =
      some ((), r) := by
    rw [keySkip, hnext]
    refine outcome_bind_of_eq_some (outcome_stringSkip l hl _) fun k _ hk => ?_
    have hcolon := outcome_colon hc r
    rw [← hk] at hcolon
    exact outcome_bind_pure (k := id) (o := some ()) hcolon (fun _ => rfl) fun _ => rfl
  rw [goOn, hkey]
  rfl

/-! ## Values -/

section Heads

variable {b : Text} (hb : Blanks b) (rest : Text)

include hb

theorem outcome_headSkip_list (t : Text) :
    outcome id (headSkip (b ++ '[' :: t)) = some (some .list, t) := by
  obtain ⟨h, hnext⟩ := next?_append hb (c := '[') (by decide) t
  rw [headSkip, hnext]
  rfl

theorem outcome_headSkip_object (t : Text) :
    outcome id (headSkip (b ++ '\x7b' :: t)) = some (some .object, t) := by
  obtain ⟨h, hnext⟩ := next?_append hb (c := '\x7b') (by decide) t
  rw [headSkip, hnext]
  rfl

end Heads

/-- The value is passed over, whatever is around it and may follow it. -/
def Skips (v : Tree) : Prop :=
  ∀ (x b rest : Text) (stack : List Enclosing), v.Written x → Blanks b → Delimited rest →
    outcome id (skipFrom stack (b ++ (x ++ rest))) = behind false stack rest

theorem skips_of_scalar {v : Tree} (h : ∀ (x b rest : Text), v.Written x → Blanks b →
    Delimited rest → outcome id (headSkip (b ++ (x ++ rest))) = some (none, rest)) : Skips v :=
  fun x b rest stack hx hb hrest => outcome_skipFrom stack (h x b rest hx hb hrest)

theorem behind_writtenItems (stack : List Enclosing) (rest : Text) :
    ∀ {vs : List Tree}, (∀ v ∈ vs, Skips v) → ∀ {y b : Text}, WrittenItems vs y → Blanks b →
      behind false (.list :: stack) (b ++ (y ++ rest)) = behind false stack rest := by
  intro vs hvs
  induction vs with
  | nil =>
    rintro _ b rfl hb
    exact behind_close hb .list stack false rest
  | cons v vs ih =>
    rintro _ b ⟨d, x, e, z, hd, hx, he, hz, rfl⟩ hb
    obtain ⟨hv, hvs⟩ := List.forall_mem_cons.mp hvs
    have htext : b ++ (',' :: (d ++ (x ++ (e ++ z))) ++ rest) =
        b ++ ',' :: (d ++ (x ++ (e ++ (z ++ rest)))) := by
      simp
    rw [htext, behind_comma hb .list stack, goOn_list,
      hv x d _ _ hx hd (.append he (delimited_writtenItems hz)), ih hvs hz he]

theorem goOn_writtenMember {m : Literal × Tree} (hm : Skips m.2) {b x r : Text} (hb : Blanks b)
    (hx : WrittenMember m x) (hr : Delimited r) (stack : List Enclosing) :
    goOn (.object :: stack, b ++ (x ++ r)) = behind false (.object :: stack) r := by
  obtain ⟨k, v⟩ := m
  obtain ⟨body, c, c', y, hk, hc, hc', hy, rfl⟩ := hx
  have htext : b ++ ('"' :: (body ++ '"' :: (c ++ ':' :: (c' ++ y))) ++ r) =
      b ++ '"' :: (body ++ '"' :: (c ++ ':' :: (c' ++ (y ++ r)))) := by
    simp
  rw [htext, goOn_object hb hk hc]
  exact hm y c' r _ hy hc' hr

theorem behind_writtenMembers (stack : List Enclosing) (rest : Text) :
    ∀ {ms : List (Literal × Tree)}, (∀ m ∈ ms, Skips m.2) → ∀ {y b : Text},
      WrittenMembers ms y → Blanks b →
      behind false (.object :: stack) (b ++ (y ++ rest)) = behind false stack rest := by
  intro ms hms
  induction ms with
  | nil =>
    rintro _ b rfl hb
    exact behind_close hb .object stack false rest
  | cons m ms ih =>
    rintro _ b ⟨d, x, e, z, hd, hx, he, hz, rfl⟩ hb
    obtain ⟨hm, hms⟩ := List.forall_mem_cons.mp hms
    have htext : b ++ (',' :: (d ++ (x ++ (e ++ z))) ++ rest) =
        b ++ ',' :: (d ++ (x ++ (e ++ (z ++ rest)))) := by
      simp
    rw [htext, behind_comma hb .object stack,
      goOn_writtenMember hm hd hx (.append he (delimited_writtenMembers hz)), ih hms hz he]

theorem skips_null : Skips .null := by
  refine skips_of_scalar fun x b rest hx hb hrest => ?_
  obtain ⟨c, t, hs, rfl, rfl, hnext⟩ := next?_written hb rest hx
  rw [headSkip, hnext]
  exact outcome_of_map (k := fun _ => none) (outcome_word "ull" hx (by cbv) rest)
    (fun _ => rfl) fun _ => rfl

theorem skips_bool (value : Bool) : Skips (.bool value) := by
  refine skips_of_scalar fun x b rest hx hb hrest => ?_
  obtain ⟨c, t, hs, rfl, hc, hnext⟩ := next?_written hb rest hx
  rw [headSkip, hnext]
  cases value with
  | true =>
    obtain rfl := hc
    exact outcome_of_map (k := fun _ => none) (outcome_word "rue" hx (by cbv) rest)
      (fun _ => rfl) fun _ => rfl
  | false =>
    obtain rfl := hc
    exact outcome_of_map (k := fun _ => none) (outcome_word "alse" hx (by cbv) rest)
      (fun _ => rfl) fun _ => rfl

theorem skips_number (n : Numeral) : Skips (.number n) := by
  refine skips_of_scalar fun x b rest hx hb hrest => ?_
  obtain ⟨c, t, hs, rfl, hc, hnext⟩ := next?_written hb rest hx
  have hne : ∀ d, startsNumber d = false → c ≠ d :=
    fun d hd heq => Bool.false_ne_true (hd.symm.trans (heq ▸ hc))
  have hstarts : c = '-' ∨ c.isDigit = true := by
    have := show (_ || _) = true from hc
    simpa using this
  rw [headSkip, hnext]
  dsimp only
  split
  case h_7 =>
    rw [if_pos hstarts]
    exact outcome_of_map (k := fun _ => none) (h := id) (o := some n)
      (outcome_numeral hx .invalidNumber hrest.numberEnd) (fun _ => rfl) fun _ => rfl
  all_goals exact absurd rfl (hne _ rfl)

theorem skips_string (l : Literal) : Skips (.string l) := by
  refine skips_of_scalar fun x b rest hx hb hrest => ?_
  obtain ⟨c, t, hs, rfl, rfl, hnext⟩ := next?_written hb rest hx
  obtain ⟨body, hbody, ht⟩ := hx
  have hstring : outcome id (stringSkip (t ++ rest)) = (some ()).map fun u => (u, rest) := by
    rw [(List.cons.inj ht).2, List.append_assoc]
    exact outcome_stringSkip l hbody rest
  rw [headSkip, hnext]
  exact outcome_of_map (k := fun _ => none) hstring (fun _ => rfl) fun _ => rfl

theorem skips_array {vs : List Tree} (h : ∀ v ∈ vs, Skips v) : Skips (.array vs) := by
  intro x b rest stack hx hb hrest
  cases vs with
  | nil =>
    obtain ⟨d, hd, rfl⟩ := hx
    have htext : b ++ ('[' :: (d ++ [']']) ++ rest) = b ++ '[' :: (d ++ ']' :: rest) := by
      simp
    rw [htext, outcome_skipFrom stack (outcome_headSkip_list hb _)]
    exact behind_close hd .list stack true rest
  | cons v vs =>
    obtain ⟨d, y, e, z, hd, hy, he, hz, rfl⟩ := hx
    obtain ⟨hv, hvs⟩ := List.forall_mem_cons.mp h
    have htext : b ++ ('[' :: (d ++ (y ++ (e ++ z))) ++ rest) =
        b ++ '[' :: (d ++ (y ++ (e ++ (z ++ rest)))) := by
      simp
    have hfirst := hv y [] (e ++ (z ++ rest)) (.list :: stack) hy .nil
      (.append he (delimited_writtenItems hz))
    obtain ⟨c, y, rfl, hc⟩ := hy.exists_begin
    obtain ⟨hblank, hend, _, _⟩ := hc.not_delimiter
    rw [htext, outcome_skipFrom stack (outcome_headSkip_list hb _)]
    refine (behind_first hd .list stack hblank hend _).trans ?_
    rw [goOn_list]
    exact hfirst.trans (behind_writtenItems stack rest hvs hz he)

theorem skips_object {ms : List (Literal × Tree)} (h : ∀ m ∈ ms, Skips m.2) :
    Skips (.object ms) := by
  intro x b rest stack hx hb hrest
  cases ms with
  | nil =>
    obtain ⟨d, hd, rfl⟩ := hx
    have htext : b ++ ('\x7b' :: (d ++ ['\x7d']) ++ rest) =
        b ++ '\x7b' :: (d ++ '\x7d' :: rest) := by
      simp
    rw [htext, outcome_skipFrom stack (outcome_headSkip_object hb _)]
    exact behind_close hd .object stack true rest
  | cons m ms =>
    obtain ⟨d, y, e, z, hd, hy, he, hz, rfl⟩ := hx
    obtain ⟨hm, hms⟩ := List.forall_mem_cons.mp h
    have htext : b ++ ('\x7b' :: (d ++ (y ++ (e ++ z))) ++ rest) =
        b ++ '\x7b' :: (d ++ (y ++ (e ++ (z ++ rest)))) := by
      simp
    have hdelimited : Delimited (e ++ (z ++ rest)) := .append he (delimited_writtenMembers hz)
    have hfirst := goOn_writtenMember hm .nil hy hdelimited stack
    obtain ⟨t, rfl⟩ := hy.exists_quote
    rw [htext, outcome_skipFrom stack (outcome_headSkip_object hb _)]
    refine (behind_first hd .object stack (by decide) (by decide) _).trans ?_
    exact hfirst.trans (behind_writtenMembers stack rest hms hz he)

/-- **Every value is passed over.** -/
theorem skips (v : Tree) : Skips v := by
  induction v using Tree.induction with
  | hnull => exact skips_null
  | hbool value => exact skips_bool value
  | hnumber n => exact skips_number n
  | hstring l => exact skips_string l
  | harray vs ih => exact skips_array ih
  | hobject ms ih => exact skips_object ih

/-- **Passing over a value** as a reader. -/
theorem reads_skipValue : Reads skipValue id fun _ => some () :=
  fun v x b rest hx hb hrest => skips v x b rest [] hx hb hrest

end SchemaTypes.Json
