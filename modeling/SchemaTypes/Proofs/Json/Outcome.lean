import Mathlib
import SchemaTypes.Json.Skip
import SchemaTypes.Proofs.Json.Tree

/-!
# What comes of reading

A reader takes what is written off the front of a text and leaves the rest alone. This module says
so of blanks, words, strings and numbers.

* `outcome`: the value that is read and the rest, or nothing if there is a fault.
* `outcome_bind_of_eq_map`, `outcome_bind_pure`: a reader told from its parts.
* `Delimited`: the texts that may follow a value.
* `outcome_stringRest`, `outcome_stringSkip`: reading a string literal, and passing over it.
* **`outcome_numeral`**: reading a numeral.
-/

namespace SchemaTypes.Json

variable {α β γ δ : Type} {m n : Nat}

/-! ## Outcomes -/

/-- What comes of reading: the value, looked at by a function, and the rest of the text; nothing if
there is a fault. -/
def outcome (g : α → β) : Except Fault (Parsed α n) → Option (β × Text)
  | .ok p => some (g p.value, p.rest)
  | .error _ => none

@[simp] theorem outcome_ok (g : α → β) (p : Parsed α n) :
    outcome g (.ok p) = some (g p.value, p.rest) := rfl

@[simp] theorem outcome_error (g : α → β) (f : Fault) :
    outcome g (.error f : Except Fault (Parsed α n)) = none := rfl

theorem outcome_of_map {g : α → β} {h : γ → δ} {k : δ → β} {f : Parsed γ m → Parsed α n}
    {e : Except Fault (Parsed γ m)} {o : Option δ} {rest : Text}
    (he : outcome h e = o.map fun d => (d, rest)) (hvalue : ∀ p, g (f p).value = k (h p.value))
    (hrest : ∀ p, (f p).rest = p.rest) :
    outcome g (e.map f) = (o.map k).map fun b => (b, rest) := by
  cases e with
  | error f =>
    cases o with
    | none => rfl
    | some d => exact absurd he nofun
  | ok p =>
    cases o with
    | none => exact absurd he nofun
    | some d =>
      obtain ⟨rfl, rfl⟩ := Prod.mk.inj (Option.some.inj he)
      show some (g (f p).value, (f p).rest) = some (k (h p.value), p.rest)
      rw [hvalue, hrest]

theorem outcome_eq_map (g : α → β) (h : β → γ) (e : Except Fault (Parsed α n)) :
    outcome (h ∘ g) e = (outcome g e).map (Prod.map h id) := by
  cases e <;> rfl

theorem exists_of_outcome_eq_some {g : α → β} {e : Except Fault (Parsed α n)} {b : β} {t : Text}
    (h : outcome g e = some (b, t)) : ∃ p, e = .ok p ∧ g p.value = b ∧ p.rest = t := by
  cases e with
  | error f => exact absurd h nofun
  | ok p =>
    obtain ⟨hvalue, hrest⟩ := Prod.mk.inj (Option.some.inj h)
    exact ⟨p, rfl, hvalue, hrest⟩

theorem exists_of_outcome_eq_none {g : α → β} {e : Except Fault (Parsed α n)}
    (h : outcome g e = none) : ∃ f, e = .error f := by
  cases e with
  | error f => exact ⟨f, rfl⟩
  | ok p => exact absurd h nofun

/-! ## Steps -/

theorem outcome_bind (g : α → β) {x : Except Fault γ} {f : γ → Except Fault (Parsed α n)} {c : γ}
    (hx : x = .ok c) : outcome g (x >>= f) = outcome g (f c) := by
  rw [hx]
  rfl

theorem outcome_bind_eq {g : α → β} {k : γ → δ} {x : Except Fault (Parsed γ m)}
    {f : Parsed γ m → Except Fault (Parsed α n)} {out : δ × Text → Option (β × Text)}
    (hf : ∀ p, outcome g (f p) = out (k p.value, p.rest)) :
    outcome g (x >>= f) = (outcome k x).bind out := by
  cases x with
  | error fault => rfl
  | ok p => exact hf p

theorem outcome_bind_of_eq_some {g : α → β} {k : γ → δ} {x : Except Fault (Parsed γ m)}
    {f : Parsed γ m → Except Fault (Parsed α n)} {d : δ} {t : Text} {out : Option (β × Text)}
    (hx : outcome k x = some (d, t))
    (hf : ∀ p, k p.value = d → p.rest = t → outcome g (f p) = out) :
    outcome g (x >>= f) = out := by
  obtain ⟨p, hp, hvalue, hrest⟩ := exists_of_outcome_eq_some hx
  exact (outcome_bind g hp).trans (hf p hvalue hrest)

theorem outcome_bind_of_eq_map {g : α → β} {k : γ → δ} {x : Except Fault (Parsed γ m)}
    {f : Parsed γ m → Except Fault (Parsed α n)} {o : Option δ} {t : Text}
    {out : δ → Option (β × Text)} (hx : outcome k x = o.map fun d => (d, t))
    (hf : ∀ p, p.rest = t → outcome g (f p) = out (k p.value)) :
    outcome g (x >>= f) = o.bind out := by
  cases o with
  | none =>
    obtain ⟨fault, hfault⟩ := exists_of_outcome_eq_none hx
    rw [hfault]
    rfl
  | some d =>
    exact outcome_bind_of_eq_some hx fun p hvalue hrest => hvalue ▸ hf p hrest

theorem outcome_bind_pure {g : α → β} {h : γ → δ} {k : δ → β} {f : Parsed γ m → Parsed α n}
    {e : Except Fault (Parsed γ m)} {o : Option δ} {rest : Text}
    (he : outcome h e = o.map fun d => (d, rest)) (hvalue : ∀ p, g (f p).value = k (h p.value))
    (hrest : ∀ p, (f p).rest = p.rest) :
    outcome g (e >>= fun p => pure (f p)) = (o.map k).map fun b => (b, rest) := by
  rw [← outcome_of_map he hvalue hrest]
  cases e <;> rfl

/-! ## Blanks -/

theorem Blanks.nil : Blanks [] := fun _ h => absurd h List.not_mem_nil

/-- **The first character that is not blank.** -/
theorem next?_append {b : Text} (hb : Blanks b) {c : Char} (hc : isBlank c = false) (r : Text) :
    ∃ h, next? (b ++ c :: r) = some ⟨c, r, h⟩ := by
  have hskip : skipBlanks (b ++ c :: r) = c :: r := by
    unfold skipBlanks
    rw [List.dropWhile_append_of_pos hb, List.dropWhile_cons_of_neg (by simp [hc])]
  have hshort : r.length < (b ++ c :: r).length := by
    rw [List.length_append, List.length_cons]
    omega
  refine ⟨hshort, ?_⟩
  unfold next?
  split
  · next h => simp [hskip] at h
  · next d r' h =>
    obtain ⟨rfl, rfl⟩ := List.cons.inj (hskip.symm.trans h)
    rfl

theorem next?_of_blanks {b : Text} (hb : Blanks b) : next? b = none := by
  have hskip : skipBlanks b = [] := List.dropWhile_eq_nil_iff.mpr hb
  unfold next?
  split
  · rfl
  · next h => simp [hskip] at h

/-- What may follow a value: the end, a blank, a comma or the end of a container. -/
def Delimited (t : Text) : Prop :=
  ∀ c ∈ t.head?, isBlank c = true ∨ c = ',' ∨ c = ']' ∨ c = '\x7d'

theorem Delimited.append {b t : Text} (hb : Blanks b) (ht : Delimited t) : Delimited (b ++ t) := by
  cases b with
  | nil => exact ht
  | cons c b =>
    intro d hd
    obtain rfl : c = d := Option.some.inj hd
    exact .inl (hb c List.mem_cons_self)

/-! ## Words -/

theorem word_append (letters rest : Text) :
    ∃ h, word letters (letters ++ rest) = .ok ⟨(), rest, h⟩ := by
  induction letters with
  | nil => exact ⟨Nat.lt_succ_self _, rfl⟩
  | cons l letters ih =>
    obtain ⟨h, hword⟩ := ih
    refine ⟨Nat.lt_succ_of_lt h, ?_⟩
    show word (l :: letters) (l :: (letters ++ rest)) = _
    rw [word, if_pos rfl, hword]
    rfl

/-! ## Strings -/

theorem outcome_stringRest_quote (g : Text → β) (rest : Text) :
    outcome g (stringRest ('"' :: rest)) = some (g [], rest) := by
  rw [stringRest]
  rfl

theorem outcome_stringRest_plain (g : Text → β) {c : Char} (h : 0x20 ≤ c.toNat) (hquote : c ≠ '"')
    (hback : c ≠ '\\') (rest : Text) :
    outcome g (stringRest (c :: rest)) = outcome (g ∘ (c :: ·)) (stringRest rest) := by
  rw [stringRest.eq_4 c rest hquote hback, if_neg (Nat.not_lt.mpr h)]
  cases stringRest rest <;> rfl

theorem outcome_stringRest_escape (g : Text → β) {r rest : Text} {c : Char}
    (h : outcome id (escape r) = some (c, rest)) :
    outcome g (stringRest ('\\' :: r)) = outcome (g ∘ (c :: ·)) (stringRest rest) := by
  rw [stringRest.eq_3]
  refine outcome_bind_of_eq_some h fun p hvalue hrest => ?_
  subst hvalue hrest
  cases stringRest p.rest <;> rfl

theorem outcome_stringRest_bad_escape (g : Text → β) {r : Text}
    (h : outcome id (escape r) = none) : outcome g (stringRest ('\\' :: r)) = none := by
  obtain ⟨f, hf⟩ := exists_of_outcome_eq_none h
  rw [stringRest.eq_3, hf]
  rfl

/-! ## Escapes -/

theorem ne_mark_of_simpleEscape? {e c : Char} (h : simpleEscape? e = some c) : e ≠ 'u' := by
  rintro rfl
  exact Option.some_ne_none c h.symm

theorem outcome_escape_simple {e c : Char} (h : simpleEscape? e = some c) (r : Text) :
    outcome id (escape (e :: r)) = some (c, r) := by
  rw [escape.eq_3 e r (ne_mark_of_simpleEscape? h), h]
  rfl

theorem length_le_byteLength (t : Text) : t.length ≤ Text.byteLength t := by
  induction t with
  | nil => exact Nat.le_refl 0
  | cons c t ih =>
    have := c.utf8Size_pos
    rw [List.length_cons, Text.byteLength_cons]
    omega

theorem hexUnit_append {ds : Text} {n : Nat} (hlength : ds.length = 4)
    (h : hexNumber? ds = some n) (rest : Text) :
    ∃ hs, hexUnit (ds ++ rest) = .ok ⟨n, rest, hs⟩ := by
  have hbytes : ¬Text.byteLength (ds ++ rest) < 4 := by
    have := length_le_byteLength ds
    rw [Text.byteLength_append]
    omega
  have htake : (ds ++ rest).take 4 = ds := by
    rw [← hlength, List.take_left]
  have hdrop : (ds ++ rest).drop 4 = rest := by
    rw [← hlength, List.drop_left]
  refine ⟨by rw [List.length_append]; omega, ?_⟩
  unfold hexUnit
  rw [if_neg hbytes, htake, h]
  simp only [Parsed.drop, hdrop]

section Units

variable {ds : Text} {u : Nat} (hlength : ds.length = 4) (hds : hexNumber? ds = some u)

include hlength hds

theorem outcome_unicodeEscape (htrailing : isTrailing u = false) (hleading : isLeading u = false)
    (rest : Text) : outcome id (unicodeEscape (ds ++ rest)) = some (Char.ofNat u, rest) := by
  obtain ⟨hs, hu⟩ := hexUnit_append hlength hds rest
  unfold unicodeEscape
  rw [hu]
  simp [bind, Except.bind, pure, Except.pure, htrailing, hleading, Parsed.map]

theorem outcome_unicodeEscape_trailing (htrailing : isTrailing u = true) (rest : Text) :
    outcome id (unicodeEscape (ds ++ rest)) = none := by
  obtain ⟨hs, hu⟩ := hexUnit_append hlength hds rest
  unfold unicodeEscape
  rw [hu]
  simp [bind, Except.bind, throw, throwThe, MonadExceptOf.throw, htrailing]

theorem outcome_unicodeEscape_pair (htrailing : isTrailing u = false)
    (hleading : isLeading u = true) {ds' : Text} {v : Nat} (hlength' : ds'.length = 4)
    (hds' : hexNumber? ds' = some v) (rest : Text) :
    outcome id (unicodeEscape (ds ++ '\\' :: 'u' :: (ds' ++ rest))) =
      if isTrailing v then some (pairCharacter u v, rest) else none := by
  obtain ⟨hs, hu⟩ := hexUnit_append hlength hds ('\\' :: 'u' :: (ds' ++ rest))
  obtain ⟨hs', hv⟩ := hexUnit_append hlength' hds' rest
  have hpair : ∀ a b,
      Char.ofNat (0x10000 + (a - 0xD800) * 0x400 + (b - 0xDC00)) = pairCharacter a b :=
    fun _ _ => rfl
  unfold unicodeEscape
  simp only [hpair]
  -- the sum is not to be worked out
  clear hpair
  generalize pairCharacter = character
  rw [hu]
  simp only [bind, Except.bind, htrailing, hleading, pairMark, Parsed.start, if_true]
  rw [hv]
  cases hv' : isTrailing v
  · simp [hv', throw, throwThe, MonadExceptOf.throw]
  · simp only [hv', if_true, Bool.false_eq_true, if_false, pure, Except.pure]
    rw [outcome_ok, id]

theorem outcome_unicodeEscape_leading (htrailing : isTrailing u = false)
    (hleading : isLeading u = true) {rest : Text} (hrest : ∀ r, rest ≠ '\\' :: 'u' :: r) :
    outcome id (unicodeEscape (ds ++ rest)) = none := by
  obtain ⟨hs, hu⟩ := hexUnit_append hlength hds rest
  unfold unicodeEscape
  rw [hu]
  simp only [bind, Except.bind, htrailing, hleading, if_true]
  cases rest with
  | nil => rfl
  | cons c r =>
    by_cases hc : c = '\\'
    · subst hc
      simp only [pairMark, if_true, Parsed.start]
      cases r with
      | nil => rfl
      | cons d r =>
        have hd : d ≠ 'u' := by
          rintro rfl
          exact hrest r rfl
        simp [hd]
    · simp [pairMark, hc]

end Units

/-! ## Literals -/

theorem Literal.WrittenPart.exists_digits {u : Nat} {x : Text}
    (h : Literal.WrittenPart (.unit u) x) :
    ∃ ds : Text, ds.length = 4 ∧ hexNumber? ds = some u ∧ x = '\\' :: 'u' :: ds := by
  cases h with
  | unit hlength hds => exact ⟨_, hlength, hds, rfl⟩

theorem Literal.Written.ne_mark {l : Literal} {y : Text} (h : l.Written y)
    (hunit : ∀ v l', l ≠ .unit v :: l') (rest r : Text) :
    y ++ '"' :: rest ≠ '\\' :: 'u' :: r := by
  cases l with
  | nil =>
    obtain rfl : y = [] := h
    exact fun heq => absurd (List.cons.inj heq).1 (by decide)
  | cons p l =>
    obtain ⟨x, z, hx, _, rfl⟩ := h
    intro heq
    cases hx with
    | plain _ _ hback => exact hback (List.cons.inj heq).1
    | escape he =>
      exact ne_mark_of_simpleEscape? he (List.cons.inj (List.cons.inj heq).2).1
    | unit => exact hunit _ l rfl

/-- **Reading a string literal** gives the text that it stands for. -/
theorem outcome_stringRest (l : Literal) : ∀ {body : Text}, l.Written body →
    ∀ (g : Text → β) (rest : Text),
      outcome g (stringRest (body ++ '"' :: rest)) = l.text?.map fun t => (g t, rest) := by
  fun_induction Literal.text? l with
  | case1 =>
    rintro _ rfl g rest
    exact outcome_stringRest_quote g rest
  | case2 c l ih =>
    rintro _ ⟨x, y, hx, hy, rfl⟩ g rest
    rw [List.append_assoc]
    cases hx with
    | plain h hquote hback =>
      rw [List.singleton_append, outcome_stringRest_plain g h hquote hback, ih hy, Option.map_map]
      rfl
    | escape he =>
      rw [List.cons_append, List.singleton_append,
        outcome_stringRest_escape g (outcome_escape_simple he _), ih hy, Option.map_map]
      rfl
  | case3 u l htrailing =>
    rintro _ ⟨x, y, hx, hy, rfl⟩ g rest
    obtain ⟨ds, hlength, hds, rfl⟩ := hx.exists_digits
    rw [List.append_assoc]
    exact outcome_stringRest_bad_escape g
      (outcome_unicodeEscape_trailing hlength hds htrailing _)
  | case4 u htrailing hleading v l hv ih =>
    rintro _ ⟨x, y, hx, ⟨x', y', hx', hy', rfl⟩, rfl⟩ g rest
    obtain ⟨ds, hlength, hds, rfl⟩ := hx.exists_digits
    obtain ⟨ds', hlength', hds', rfl⟩ := hx'.exists_digits
    have hescape := outcome_unicodeEscape_pair hlength hds (Bool.eq_false_iff.mpr htrailing)
      hleading hlength' hds' (y' ++ '"' :: rest)
    rw [if_pos hv] at hescape
    rw [List.append_assoc, List.append_assoc]
    refine (outcome_stringRest_escape g (r := 'u' :: _) hescape).trans ?_
    rw [ih hy', Option.map_map]
    rfl
  | case5 u htrailing hleading v l hv =>
    rintro _ ⟨x, y, hx, ⟨x', y', hx', hy', rfl⟩, rfl⟩ g rest
    obtain ⟨ds, hlength, hds, rfl⟩ := hx.exists_digits
    obtain ⟨ds', hlength', hds', rfl⟩ := hx'.exists_digits
    have hescape := outcome_unicodeEscape_pair hlength hds (Bool.eq_false_iff.mpr htrailing)
      hleading hlength' hds' (y' ++ '"' :: rest)
    rw [if_neg hv] at hescape
    rw [List.append_assoc, List.append_assoc]
    exact outcome_stringRest_bad_escape g hescape
  | case6 u l htrailing hleading hunit =>
    rintro _ ⟨x, y, hx, hy, rfl⟩ g rest
    obtain ⟨ds, hlength, hds, rfl⟩ := hx.exists_digits
    have hescape := outcome_unicodeEscape_leading hlength hds (Bool.eq_false_iff.mpr htrailing)
      hleading (hy.ne_mark hunit rest)
    rw [List.append_assoc]
    exact outcome_stringRest_bad_escape g hescape
  | case7 u l htrailing hleading ih =>
    rintro _ ⟨x, y, hx, hy, rfl⟩ g rest
    obtain ⟨ds, hlength, hds, rfl⟩ := hx.exists_digits
    have hescape := outcome_unicodeEscape hlength hds (Bool.eq_false_iff.mpr htrailing)
      (Bool.eq_false_iff.mpr hleading) (y ++ '"' :: rest)
    rw [List.append_assoc]
    refine (outcome_stringRest_escape g (r := 'u' :: _) hescape).trans ?_
    rw [ih hy, Option.map_map]
    rfl

theorem outcome_stringSkip_escape {r rest : Text}
    (h : outcome id (escapeSkip r) = some ((), rest)) :
    outcome id (stringSkip ('\\' :: r)) = outcome id (stringSkip rest) := by
  rw [stringSkip.eq_3]
  refine outcome_bind_of_eq_some h fun p _ hrest => ?_
  subst hrest
  cases stringSkip p.rest <;> rfl

/-- **Passing over a string literal** takes it off, whether it stands for a text or not. -/
theorem outcome_stringSkip (l : Literal) : ∀ {body : Text}, l.Written body → ∀ rest : Text,
    outcome id (stringSkip (body ++ '"' :: rest)) = some ((), rest) := by
  induction l with
  | nil =>
    rintro _ rfl rest
    rw [List.nil_append, stringSkip]
    rfl
  | cons p l ih =>
    rintro _ ⟨x, y, hx, hy, rfl⟩ rest
    rw [List.append_assoc, ← ih hy rest]
    cases hx with
    | plain h hquote hback =>
      rw [List.singleton_append, stringSkip.eq_4 _ _ hquote hback, if_neg (Nat.not_lt.mpr h)]
      cases stringSkip (y ++ '"' :: rest) <;> rfl
    | @escape e c he =>
      refine outcome_stringSkip_escape (r := e :: _) ?_
      rw [escapeSkip.eq_3 e _ (ne_mark_of_simpleEscape? he), he]
      rfl
    | unit hlength hds =>
      obtain ⟨hs, hu⟩ := hexUnit_append hlength hds (y ++ '"' :: rest)
      refine outcome_stringSkip_escape (r := 'u' :: (_ ++ (y ++ '"' :: rest))) ?_
      rw [escapeSkip.eq_2, hu]
      rfl

/-! ## Numbers -/

/-- What may follow a numeral. -/
def NumberEnd (t : Text) : Prop :=
  ∀ c ∈ t.head?, c.isDigit = false ∧ c ≠ '.' ∧ c ≠ 'e' ∧ c ≠ 'E'

theorem Delimited.numberEnd {t : Text} (h : Delimited t) : NumberEnd t := by
  intro c hc
  have hdelimiter := h c hc
  simp only [isBlank, Bool.or_eq_true, decide_eq_true_eq] at hdelimiter
  rcases hdelimiter with (((rfl | rfl) | rfl) | rfl) | rfl | rfl | rfl <;> decide

theorem digitAhead_of_numberEnd {t : Text} (h : NumberEnd t) : digitAhead t = false := by
  cases t with
  | nil => rfl
  | cons c t => exact (h c rfl).1

theorem digits_append {ds rest : Text} (hds : ∀ c ∈ ds, c.isDigit = true)
    (hrest : digitAhead rest = false) : (digits (ds ++ rest)).value = ds ∧
      (digits (ds ++ rest)).rest = rest := by
  have hstop : rest.takeWhile Char.isDigit = [] ∧ rest.dropWhile Char.isDigit = rest := by
    cases rest with
    | nil => exact ⟨rfl, rfl⟩
    | cons c r =>
      have hc : ¬c.isDigit = true := by
        rw [Bool.not_eq_true]
        exact hrest
      exact ⟨List.takeWhile_cons_of_neg hc, List.dropWhile_cons_of_neg hc⟩
  unfold digits
  simp only [List.takeWhile_append_of_pos hds, List.dropWhile_append_of_pos hds, hstop,
    List.append_nil, and_self]

theorem IsDigits.digitAhead_append {ds : Text} (h : IsDigits ds) (rest : Text) :
    digitAhead (ds ++ rest) = true := by
  obtain ⟨d, ds, rfl⟩ := List.exists_cons_of_ne_nil h.nonempty
  exact h.digits d List.mem_cons_self

section Parts

variable (cause : Cause)

theorem outcome_wholePart {w rest : Text} (hw : IsDigits w) (hzero : w.head? = some '0' → w = ['0'])
    (hrest : digitAhead rest = false) :
    outcome id (wholePart cause (w ++ rest)) = some (w, rest) := by
  obtain ⟨d, ds, rfl⟩ := List.exists_cons_of_ne_nil hw.nonempty
  obtain ⟨hd, hds⟩ := List.forall_mem_cons.mp hw.digits
  by_cases h0 : d = '0'
  · subst h0
    obtain rfl : ds = [] := (List.cons.inj (hzero rfl)).2
    show outcome id (if digitAhead rest = true then _ else _) = _
    rw [hrest, if_neg Bool.false_ne_true]
    rfl
  · obtain ⟨hvalue, htail⟩ := digits_append hds hrest
    rw [List.cons_append, wholePart.eq_2 cause d _ h0, if_pos hd]
    exact congrArg some (Prod.ext (congrArg (d :: ·) hvalue) htail)

theorem outcome_fractionPart {ds fraction rest : Text}
    (h : ds = [] ∧ fraction = [] ∨ IsDigits ds ∧ fraction = '.' :: ds)
    (hrest : digitAhead rest = false) (hpoint : ∀ c ∈ rest.head?, c ≠ '.') :
    outcome id (fractionPart cause (fraction ++ rest)) = some (ds, rest) := by
  rcases h with ⟨rfl, rfl⟩ | ⟨hds, rfl⟩
  · have hne : ∀ r, rest ≠ '.' :: r := by
      rintro r rfl
      exact hpoint '.' rfl rfl
    rw [List.nil_append, fractionPart.eq_2 cause rest hne]
    rfl
  · obtain ⟨hvalue, htail⟩ := digits_append hds.digits hrest
    rw [List.cons_append, fractionPart, if_pos (hds.digitAhead_append rest)]
    exact congrArg some (Prod.ext hvalue htail)

theorem outcome_exponentDigits {ds rest : Text} (hds : IsDigits ds)
    (hrest : digitAhead rest = false) :
    outcome id (exponentDigits cause (ds ++ rest)) = some (ds, rest) := by
  obtain ⟨hvalue, htail⟩ := digits_append hds.digits hrest
  rw [exponentDigits, if_pos (hds.digitAhead_append rest)]
  exact congrArg some (Prod.ext hvalue htail)

theorem outcome_exponentPart {negative : Bool} {ds exponent rest : Text}
    (h : ds = [] ∧ negative = false ∧ exponent = [] ∨
      IsDigits ds ∧ ∃ mark sign, (mark = 'e' ∨ mark = 'E') ∧
        (negative = true ∧ sign = ['-'] ∨ negative = false ∧ (sign = [] ∨ sign = ['+'])) ∧
        exponent = mark :: (sign ++ ds))
    (hrest : digitAhead rest = false) (hmark : ∀ c ∈ rest.head?, c ≠ 'e' ∧ c ≠ 'E') :
    outcome id (exponentPart cause (exponent ++ rest)) = some ((negative, ds), rest) := by
  rcases h with ⟨rfl, rfl, rfl⟩ | ⟨hds, mark, sign, hm, hsign, rfl⟩
  · cases rest with
    | nil => rfl
    | cons c r =>
      have hc : ¬(c = 'e' ∨ c = 'E') := fun hc => hc.elim (hmark c rfl).1 (hmark c rfl).2
      unfold exponentPart
      simp only [List.nil_append, if_neg hc]
      rfl
  · obtain ⟨p, hp, hvalue, htail⟩ :=
      exists_of_outcome_eq_some (outcome_exponentDigits cause hds hrest)
    have hgiven : ∀ b, (some ((b, p.value), p.rest) : Option ((Bool × Text) × Text)) =
        some ((b, ds), rest) := fun b => congrArg some (Prod.ext (Prod.ext rfl hvalue) htail)
    rw [List.cons_append, List.append_assoc]
    rcases hsign with ⟨rfl, rfl⟩ | ⟨rfl, rfl | rfl⟩
    · rw [List.singleton_append, exponentPart.eq_3, if_pos hm, hp]
      exact hgiven true
    · -- what comes next is a digit and no sign
      have hne : ∀ d : Char, d.isDigit = false → ∀ r, ds ++ rest ≠ d :: r := by
        intro d hd r heq
        have := hds.digitAhead_append rest
        rw [heq] at this
        exact absurd (hd.symm.trans this) Bool.false_ne_true
      rw [List.nil_append, exponentPart.eq_4 cause mark _ (hne '+' (by decide))
        (hne '-' (by decide)), if_pos hm, hp]
      exact hgiven false
    · rw [List.singleton_append, exponentPart.eq_2, if_pos hm, hp]
      exact hgiven false

end Parts

theorem outcome_unsignedNumeral {n : Numeral} {fraction exponent rest : Text} (cause : Cause)
    (hwhole : IsDigits n.whole) (hleading : n.whole.head? = some '0' → n.whole = ['0'])
    (hfraction : n.fraction = [] ∧ fraction = [] ∨
      IsDigits n.fraction ∧ fraction = '.' :: n.fraction)
    (hexponent : n.exponent = [] ∧ n.negativeExponent = false ∧ exponent = [] ∨
      IsDigits n.exponent ∧ ∃ mark sign, (mark = 'e' ∨ mark = 'E') ∧
        (n.negativeExponent = true ∧ sign = ['-'] ∨
          n.negativeExponent = false ∧ (sign = [] ∨ sign = ['+'])) ∧
        exponent = mark :: (sign ++ n.exponent)) (hrest : NumberEnd rest) :
    outcome id (unsignedNumeral cause (n.whole ++ (fraction ++ (exponent ++ rest)))) =
      some ({ n with negative := false }, rest) := by
  have hafter : digitAhead rest = false := digitAhead_of_numberEnd hrest
  have hexponentEnd : digitAhead (exponent ++ rest) = false ∧
      ∀ c ∈ (exponent ++ rest).head?, c ≠ '.' := by
    rcases hexponent with ⟨_, _, rfl⟩ | ⟨_, mark, sign, hm, _, rfl⟩
    · exact ⟨hafter, fun c hc => (hrest c hc).2.1⟩
    · rcases hm with rfl | rfl <;> exact ⟨rfl, by rintro c ⟨⟩; decide⟩
  have hfractionEnd : digitAhead (fraction ++ (exponent ++ rest)) = false := by
    rcases hfraction with ⟨_, rfl⟩ | ⟨_, rfl⟩
    · exact hexponentEnd.1
    · rfl
  refine outcome_bind_of_eq_some (outcome_wholePart cause hwhole hleading hfractionEnd)
    fun w hw hwrest => ?_
  have hf := outcome_fractionPart cause hfraction hexponentEnd.1 hexponentEnd.2
  rw [← hwrest] at hf
  refine outcome_bind_of_eq_some hf fun f hf hfrest => ?_
  have he := outcome_exponentPart cause hexponent hafter fun c hc => (hrest c hc).2.2
  rw [← hfrest] at he
  refine outcome_bind_of_eq_some he fun e he herest => congrArg some (Prod.ext ?_ herest)
  show Numeral.mk false w.value f.value e.value.1 e.value.2 = _
  rw [show w.value = n.whole from hw, show f.value = n.fraction from hf,
    show e.value = (n.negativeExponent, n.exponent) from he]

/-- **Reading a numeral.** -/
theorem outcome_numeral {n : Numeral} {t : Text} (h : n.Written t) (cause : Cause) {rest : Text}
    (hrest : NumberEnd rest) : outcome id (numeral cause (t ++ rest)) = some (n, rest) := by
  obtain ⟨hwhole, hleading, fraction, exponent, hfraction, hexponent, rfl⟩ := h
  have hunsigned := outcome_unsignedNumeral cause hwhole hleading hfraction hexponent hrest
  obtain ⟨p, hp, hvalue, htail⟩ := exists_of_outcome_eq_some hunsigned
  cases hn : n.negative with
  | true =>
    have htext : (if true = true then ['-'] else []) ++ (n.whole ++ (fraction ++ exponent)) ++
        rest = '-' :: (n.whole ++ (fraction ++ (exponent ++ rest))) := by
      simp
    have hvalue' : { p.value with negative := true } = n := by
      rw [show p.value = _ from hvalue, ← hn]
    rw [htext, numeral.eq_1, hp]
    exact congrArg some (Prod.ext hvalue' htail)
  | false =>
    have htext : (if false = true then ['-'] else []) ++ (n.whole ++ (fraction ++ exponent)) ++
        rest = n.whole ++ (fraction ++ (exponent ++ rest)) := by
      simp
    have hsign : ∀ r, n.whole ++ (fraction ++ (exponent ++ rest)) ≠ '-' :: r := by
      intro r heq
      have hdigit := hwhole.digitAhead_append (fraction ++ (exponent ++ rest))
      rw [heq] at hdigit
      exact Bool.noConfusion hdigit
    rw [htext, numeral.eq_2 cause _ hsign, hunsigned, ← hn]

theorem toOption_number (n : Numeral) (rest : Text) :
    (n.number rest).toOption = (n.number []).toOption := by
  unfold Numeral.number
  dsimp only
  by_cases hwhole : n.fraction = [] ∧ n.exponent = [] ∧ (absorb 0 n.whole).2 = []
  · simp only [if_pos hwhole]
  · simp only [if_neg hwhole]
    cases excess? 0 n.exponent with
    | some ds =>
      dsimp only
      split_ifs <;> rfl
    | none =>
      dsimp only
      generalize scaled? _ _ = x
      cases x <;> rfl

end SchemaTypes.Json
