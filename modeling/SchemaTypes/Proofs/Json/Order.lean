import SchemaTypes.Proofs.Json.Fields

/-!
# The order of members and items

The value of an object does not tell in which order its members stand, if no two have the same key.
The value of a list tells it, but what comes of a list may not.

* `DistinctKeys`: no key is repeated.
* **`foldMembers_perm`**: members in another order, if what they do commutes.
* `tableOf_perm`, `TreeRecord.valueOf_perm`: tables and records.
* `foldMembers_congr`, `foldMembers_unknown`: one member for another, and a member that does
  nothing.
* `map_mapM_congr`: items in another order and with repetitions.
-/

namespace SchemaTypes.Json

variable {α β κ τ : Type}

/-! ## Members -/

/-- No key of an object is repeated. -/
def DistinctKeys (ms : List (Literal × Tree)) : Prop :=
  (ms.filterMap fun m => m.1.text?).Nodup

/-- What members with different keys do can be done in either order. -/
def Commutes (step : τ → Text → Tree → Option τ) : Prop :=
  ∀ s key key' v v', key ≠ key' →
    (step s key v).bind (step · key' v') = (step s key' v').bind (step · key v)

/-- **Members in another order.** -/
theorem foldMembers_perm {step : τ → Text → Tree → Option τ} (h : Commutes step)
    {ms ns : List (Literal × Tree)} (hperm : ms.Perm ns) (hkeys : DistinctKeys ms) :
    ∀ s, foldMembers step s ms = foldMembers step s ns := by
  unfold DistinctKeys at hkeys
  induction hperm with
  | nil => exact fun _ => rfl
  | cons m hperm ih =>
    intro s
    have hrest := ih (hkeys.sublist ((List.sublist_cons_self m _).filterMap _))
    rw [foldMembers_cons, foldMembers_cons, funext hrest]
  | swap m n ms =>
    intro s
    simp only [foldMembers_cons]
    cases hm : m.1.text? with
    | none => cases n.1.text? <;> simp
    | some key =>
      cases hn : n.1.text? with
      | none => simp
      | some key' =>
        have hne : key ≠ key' := by
          rintro rfl
          simp [hm, hn] at hkeys
        simp only [Option.bind_some, ← Option.bind_assoc]
        rw [h s key key' m.2 n.2 hne]
  | trans hperm _ ih ih' =>
    intro s
    rw [ih hkeys, ih' ((hperm.filterMap _).nodup_iff.mp hkeys)]

theorem foldMembers_congr {step : τ → Text → Tree → Option τ} {k : Literal} {v w : Tree}
    (h : ∀ s, ∀ key ∈ k.text?, step s key v = step s key w) (ms ns : List (Literal × Tree))
    (s : τ) : foldMembers step s (ms ++ (k, v) :: ns) = foldMembers step s (ms ++ (k, w) :: ns) := by
  induction ms generalizing s with
  | nil =>
    rw [List.nil_append, List.nil_append, foldMembers_cons, foldMembers_cons]
    cases hk : k.text? with
    | none => rfl
    | some key =>
      show (step s key v).bind _ = (step s key w).bind _
      rw [h s key hk]
  | cons m ms ih =>
    rw [List.cons_append, List.cons_append, foldMembers_cons, foldMembers_cons, funext ih]

theorem foldMembers_unknown {step : τ → Text → Tree → Option τ} {k : Literal} {v : Tree}
    {key : Text} (hkey : k.text? = some key) (h : ∀ s, step s key v = some s)
    (ms ns : List (Literal × Tree)) (s : τ) :
    foldMembers step s (ms ++ (k, v) :: ns) = foldMembers step s (ms ++ ns) := by
  induction ms generalizing s with
  | nil =>
    rw [List.nil_append, List.nil_append, foldMembers_cons, hkey]
    show (step s key v).bind _ = _
    rw [h]
    rfl
  | cons m ms ih =>
    rw [List.cons_append, List.cons_append, foldMembers_cons, foldMembers_cons, funext ih]

/-! ## Tables and records -/

section Steps

variable {f : Tree → Option β}

theorem commutes_insert : Commutes fun (t : Table β) key v => (f v).map (Table.insert key · t) := by
  intro t key key' v v' hne
  cases hv : f v with
  | none => cases hv' : f v' <;> simp [hv]
  | some a =>
    cases hv' : f v' with
    | none => simp [hv']
    | some b => simp [hv, hv', Table.insert_comm hne]

theorem tableOf_perm {ms ns : List (Literal × Tree)} (hperm : ms.Perm ns)
    (hkeys : DistinctKeys ms) : tableOf f ms = tableOf f ns :=
  foldMembers_perm commutes_insert hperm hkeys []

theorem tableOf_congr {v w : Tree} (h : f v = f w) {k : Literal} (ms ns : List (Literal × Tree)) :
    tableOf f (ms ++ (k, v) :: ns) = tableOf f (ms ++ (k, w) :: ns) :=
  foldMembers_congr (fun t key _ => congrArg (Option.map (Table.insert key · t)) h) ms ns []

end Steps

namespace TreeRecord

variable [DecidableEq κ] {r : TreeRecord κ τ}

theorem give_of_mem {k l : κ} {a : τ} {given : Finset κ} (hk : k ∈ given) (v w : Tree) :
    (r.give l w (a, given)).bind (r.give k v) = none := by
  unfold give
  split_ifs
  · rfl
  · cases r.field l a w <;> simp [hk]

theorem give_give {k l : κ} (hne : k ≠ l) {a : τ} {given : Finset κ} (hk : k ∉ given)
    (hl : l ∉ given) (v w : Tree) : (r.give k v (a, given)).bind (r.give l w) =
      ((r.field k a v).bind (r.field l · w)).map (·, insert l (insert k given)) := by
  unfold give
  cases r.field k a v <;> simp [hk, hl, hne.symm]

variable (h : ∀ k l, k ≠ l → ∀ s v w, (r.field k s v).bind (r.field l · w) =
  (r.field l s w).bind (r.field k · v))

include h

/-- **Two fields in either order**, if what they do to a record commutes. -/
theorem give_comm {k l : κ} (hne : k ≠ l) (v w : Tree) (s : τ × Finset κ) :
    (r.give k v s).bind (r.give l w) = (r.give l w s).bind (r.give k v) := by
  obtain ⟨a, given⟩ := s
  by_cases hk : k ∈ given
  · rw [give_of_mem hk]
    simp [give, hk]
  · by_cases hl : l ∈ given
    · rw [give_of_mem hl]
      simp [give, hl]
    · rw [give_give hne hk hl, give_give hne.symm hl hk, h k l hne, Finset.insert_comm]

theorem commutes_member : Commutes r.member := by
  intro s key key' v w hne
  unfold member
  cases hk : r.field? key with
  | none => cases r.field? key' <;> simp
  | some k =>
    cases hl : r.field? key' with
    | none => simp
    | some l =>
      have hkl : k ≠ l := by
        rintro rfl
        have hkey : r.key k = key := by simpa using List.find?_some hk
        have hkey' : r.key k = key' := by simpa using List.find?_some hl
        exact hne (hkey.symm.trans hkey')
      exact give_comm h hkl v w s

/-- **A record is the same** if its members stand in another order. -/
theorem valueOf_perm {ms ns : List (Literal × Tree)} (hperm : ms.Perm ns)
    (hkeys : DistinctKeys ms) (start : τ) :
    valueOf (some r) start (.object ms) = valueOf (some r) start (.object ns) := by
  unfold valueOf
  simp only [Option.bind_some, foldMembers_perm (commutes_member h) hperm hkeys]

omit [DecidableEq κ] h in
theorem positional_congr {v w : Tree} {us : List Tree} (ws : List Tree) :
    ∀ (ks : List κ) (s : τ), (∀ k ∈ ks[us.length]?, ∀ s, r.field k s v = r.field k s w) →
      r.positional s ks (us ++ v :: ws) = r.positional s ks (us ++ w :: ws) := by
  induction us with
  | nil =>
    intro ks s hitem
    cases ks with
    | nil => rfl
    | cons k ks =>
      show (r.field k s v).bind _ = (r.field k s w).bind _
      rw [hitem k rfl s]
  | cons u us ih =>
    intro ks s hitem
    cases ks with
    | nil => rfl
    | cons k ks =>
      show (r.field k s u).bind _ = (r.field k s u).bind _
      exact congrArg _ (funext fun s => ih ks s hitem)

end TreeRecord

/-! ## Items -/

section Items

variable {f : α → Option β}

theorem mapM_congr {v w : α} (h : f v = f w) (us ws : List α) :
    (us ++ v :: ws).mapM f = (us ++ w :: ws).mapM f := by
  simp only [List.mapM_append, List.mapM_cons, h]

theorem exists_mapM_eq_some_iff {vs : List α} :
    (∃ l, vs.mapM f = some l) ↔ ∀ v ∈ vs, ∃ a, f v = some a := by
  induction vs with
  | nil => simp
  | cons v vs ih =>
    rw [List.forall_mem_cons, ← ih, List.mapM_cons]
    cases f v with
    | none => simp
    | some a => cases vs.mapM f <;> simp

theorem mem_of_mapM_eq_some {vs : List α} {l : List β} (h : vs.mapM f = some l) {b : β} :
    b ∈ l ↔ ∃ v ∈ vs, f v = some b := by
  induction vs generalizing l with
  | nil =>
    obtain rfl : [] = l := Option.some.inj h
    simp
  | cons v vs ih =>
    rw [List.mapM_cons] at h
    cases hv : f v with
    | none => simp [hv] at h
    | some a =>
      cases hvs : vs.mapM f with
      | none => simp [hv, hvs] at h
      | some as =>
        obtain rfl : a :: as = l := by simpa [hv, hvs] using h
        rw [List.mem_cons, ih hvs]
        simp [hv, eq_comm]

/-- **Items in another order and with repetitions**, if the values are looked at in a way that does
not tell. -/
theorem map_mapM_congr {γ : Type} {g : List β → γ}
    (hg : ∀ l m : List β, (∀ b, b ∈ l ↔ b ∈ m) → g l = g m) {vs ws : List α}
    (h : ∀ v, v ∈ vs ↔ v ∈ ws) : (vs.mapM f).map g = (ws.mapM f).map g := by
  have hsome : (∃ l, vs.mapM f = some l) ↔ ∃ l, ws.mapM f = some l := by
    simp only [exists_mapM_eq_some_iff, h]
  cases hv : vs.mapM f with
  | none =>
    cases hw : ws.mapM f with
    | none => rfl
    | some m => simp [hv, hw] at hsome
  | some l =>
    obtain ⟨m, hm⟩ := hsome.mp ⟨l, hv⟩
    rw [hm]
    refine congrArg some (hg l m fun b => ?_)
    rw [mem_of_mapM_eq_some hv, mem_of_mapM_eq_some hm]
    simp only [h]

end Items

end SchemaTypes.Json
