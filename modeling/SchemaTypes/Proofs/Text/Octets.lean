import Mathlib.Data.List.Basic
import SchemaTypes.Extension.Index

/-!
# Texts byte by byte

The UTF-8 bytes of a text, read as the characters of the same numbers. Those of ASCII stay as they
are, and every other becomes some characters that are not of ASCII.

* `Text.octets`: the bytes as characters; `Text.offset`: the byte at which a character begins.
* `Text.octets_cons_of_isHigh`: what becomes of a character that is not of ASCII.
* `Text.exists_of_octets_eq_append`: what the bytes begin with, the text does, too.
* **`Text.slice_utf8`**: between offsets the bytes are those of the characters there.
-/

namespace SchemaTypes

namespace Text

/-! ## Bytes as characters -/

/-- Is the character not of ASCII? -/
def isHigh (c : Char) : Bool :=
  128 ≤ c.toNat

/-- A byte as the character of the same number. -/
def octet (b : UInt8) : Char :=
  Char.ofNat b.toNat

/-- The UTF-8 bytes of a text as characters. -/
def octets (t : Text) : Text :=
  (utf8 t).map octet

theorem toNat_octet (b : UInt8) : (octet b).toNat = b.toNat := by
  have hvalid : b.toNat.isValidChar := .inl (Nat.lt_trans b.toNat_lt (by decide))
  unfold octet Char.ofNat
  rw [dif_pos hvalid]
  rfl

theorem octets_cons (c : Char) (t : Text) :
    octets (c :: t) = (String.utf8EncodeChar c).map octet ++ octets t := by
  simp [octets, utf8]

theorem length_octets (t : Text) : (octets t).length = byteLength t := by
  rw [octets, List.length_map, length_utf8]

theorem octets_cons_of_not_isHigh {c : Char} (h : isHigh c = false) (t : Text) :
    octets (c :: t) = c :: octets t := by
  have hc : c.val.toNat ≤ 127 := by
    have : ¬128 ≤ c.val.toNat := of_decide_eq_false h
    omega
  have hbyte : octet (UInt8.ofNat c.val.toNat) = c := by
    unfold octet
    rw [UInt8.toNat_ofNat_of_lt' (Nat.lt_of_le_of_lt hc (by decide))]
    exact Char.ofNat_toNat c
  rw [octets_cons, String.utf8EncodeChar, if_pos hc, List.map_singleton, hbyte]
  rfl

theorem utf8Size_of_not_isHigh {c : Char} (h : isHigh c = false) : c.utf8Size = 1 := by
  have hlength := congrArg List.length (octets_cons_of_not_isHigh h [])
  simpa [length_octets] using hlength

theorem isHigh_octet_of_mem {c : Char} (h : isHigh c = true) :
    ∀ b ∈ String.utf8EncodeChar c, isHigh (octet b) = true := by
  have hc : ¬c.val.toNat ≤ 127 := Nat.not_le_of_gt (of_decide_eq_true h)
  have hbyte : ∀ n, 128 ≤ n → n < 256 → isHigh (octet (UInt8.ofNat n)) = true := by
    intro n hn hn'
    unfold isHigh
    rw [toNat_octet, UInt8.toNat_ofNat_of_lt' hn']
    exact decide_eq_true hn
  unfold String.utf8EncodeChar
  rw [if_neg hc]
  split_ifs <;>
    simp only [List.forall_mem_cons, List.not_mem_nil, false_implies, implies_true, and_true]
  · exact ⟨hbyte _ (by omega) (by omega), hbyte _ (by omega) (by omega)⟩
  · exact ⟨hbyte _ (by omega) (by omega), hbyte _ (by omega) (by omega),
      hbyte _ (by omega) (by omega)⟩
  · exact ⟨hbyte _ (by omega) (by omega), hbyte _ (by omega) (by omega),
      hbyte _ (by omega) (by omega), hbyte _ (by omega) (by omega)⟩

/-- **A character that is not of ASCII** becomes some that are not either. -/
theorem octets_cons_of_isHigh {c : Char} (h : isHigh c = true) (t : Text) :
    ∃ d ds, octets (c :: t) = d :: ds ++ octets t ∧ (∀ e ∈ d :: ds, isHigh e = true) ∧
      (d :: ds).length = c.utf8Size := by
  obtain ⟨b, bs, hbytes⟩ : ∃ b bs, String.utf8EncodeChar c = b :: bs := by
    refine List.exists_cons_of_ne_nil (List.ne_nil_of_length_pos ?_)
    rw [String.length_utf8EncodeChar]
    exact c.utf8Size_pos
  have hhigh := isHigh_octet_of_mem h
  rw [hbytes] at hhigh
  refine ⟨octet b, bs.map octet, ?_, ?_, ?_⟩
  · rw [octets_cons, hbytes]
    rfl
  · rw [← List.map_cons]
    exact List.forall_mem_map.mpr hhigh
  · rw [← List.map_cons, List.length_map, ← hbytes, String.length_utf8EncodeChar]

/-! ## Texts of ASCII -/

/-- All characters of the text are of ASCII. -/
def IsAscii (t : Text) : Prop := ∀ c ∈ t, isHigh c = false

theorem IsAscii.append {s t : Text} (hs : s.IsAscii) (ht : t.IsAscii) : (s ++ t).IsAscii :=
  List.forall_mem_append.mpr ⟨hs, ht⟩

theorem octets_append_of_isAscii {s : Text} (h : s.IsAscii) (t : Text) :
    octets (s ++ t) = s ++ octets t := by
  induction s with
  | nil => rfl
  | cons c s ih =>
    obtain ⟨hc, hs⟩ := List.forall_mem_cons.mp h
    rw [List.cons_append, octets_cons_of_not_isHigh hc, ih hs]
    rfl

theorem head?_octets {d : Char} (hd : isHigh d = false) (t : Text) :
    (octets t).head? = some d ↔ t.head? = some d := by
  cases t with
  | nil => rfl
  | cons c t =>
    cases hc : isHigh c with
    | false => rw [octets_cons_of_not_isHigh hc, List.head?_cons, List.head?_cons]
    | true =>
      obtain ⟨e, es, hoctets, hhigh, _⟩ := octets_cons_of_isHigh hc t
      rw [hoctets]
      have he : e ≠ d := by
        rintro rfl
        rw [hhigh e List.mem_cons_self] at hd
        exact Bool.noConfusion hd
      have hcd : c ≠ d := by
        rintro rfl
        rw [hc] at hd
        exact Bool.noConfusion hd
      simp [he, hcd]

/-- **What the bytes begin with** in ASCII, the text begins with, too. -/
theorem exists_of_octets_eq_append {s t r : Text} (hs : s.IsAscii) (h : octets t = s ++ r) :
    ∃ u, t = s ++ u ∧ r = octets u := by
  induction s generalizing t with
  | nil => exact ⟨t, rfl, h.symm⟩
  | cons d s ih =>
    obtain ⟨hd, hs⟩ := List.forall_mem_cons.mp hs
    have hhead : t.head? = some d := (head?_octets hd t).mp (by rw [h]; rfl)
    obtain ⟨t, rfl⟩ := List.head?_eq_some_iff.mp hhead
    rw [octets_cons_of_not_isHigh hd] at h
    obtain ⟨u, rfl, hu⟩ := ih hs (List.cons.inj h).2
    exact ⟨u, rfl, hu⟩

/-! ## Offsets -/

/-- The byte at which the character at a position begins. -/
def offset (t : Text) (i : Nat) : Nat :=
  byteLength (t.take i)

@[simp] theorem offset_zero (t : Text) : t.offset 0 = 0 := rfl

theorem offset_succ {t : Text} {i : Nat} {c : Char} (h : t[i]? = some c) :
    t.offset (i + 1) = t.offset i + c.utf8Size := by
  unfold offset
  rw [List.take_add_one, h, byteLength_append]
  rfl

/-- **Between offsets** stand the bytes of the characters between the positions. -/
theorem slice_utf8 (t : Text) {i j : Nat} (h : i ≤ j) :
    ((utf8 t).drop (t.offset i)).take (t.offset j - t.offset i) = utf8 (t.slice i j) := by
  have hj : t.take j = t.take i ++ t.slice i j := by
    unfold slice
    rw [← List.take_add, Nat.add_sub_cancel' h]
  have ht : utf8 t = utf8 (t.take i) ++ (utf8 (t.slice i j) ++ utf8 (t.drop j)) := by
    rw [← utf8_append, ← utf8_append, ← List.append_assoc, ← hj, List.take_append_drop]
  have hi : t.offset i = (utf8 (t.take i)).length := (length_utf8 _).symm
  have hlen : t.offset j - t.offset i = (utf8 (t.slice i j)).length := by
    unfold offset
    rw [hj, byteLength_append, Nat.add_sub_cancel_left, length_utf8]
  rw [hlen, hi, ht, List.drop_left, List.take_left]

end Text

end SchemaTypes
