import Mathlib.Data.List.DropRight
import SchemaTypes.Text.Blank

/-!
# Trimmed texts

Which of two texts in a row is trimmed depends on whether the outer one is blank.

* `Text.trimStart_append_of_ne_nil`, `Text.trimEnd_append_of_ne_nil`: the outer text is not blank.
* `Text.trimStart_append_of_eq_nil`, `Text.trimEnd_append_of_eq_nil`: it is blank.
* `Text.trimEnd_append_trimEnd`: the inner text may be trimmed first.
-/

namespace SchemaTypes.Text

variable {x y : Text}

theorem trimStart_append_of_eq_nil (h : trimStart x = []) :
    trimStart (x ++ y) = trimStart y := by
  unfold trimStart at *
  rw [List.dropWhile_append, h, List.isEmpty_nil, if_pos rfl]

theorem trimStart_append_of_ne_nil (h : trimStart x ≠ []) :
    trimStart (x ++ y) = trimStart x ++ y := by
  unfold trimStart at *
  rw [List.dropWhile_append, if_neg (by simpa using h)]

theorem trimEnd_append_of_eq_nil (h : trimEnd y = []) : trimEnd (x ++ y) = trimEnd x := by
  unfold trimEnd at *
  rw [List.reverse_append, List.dropWhile_append, List.reverse_eq_nil_iff.mp h,
    List.isEmpty_nil, if_pos rfl]

theorem trimEnd_append_of_ne_nil (h : trimEnd y ≠ []) : trimEnd (x ++ y) = x ++ trimEnd y := by
  unfold trimEnd at *
  rw [ne_eq, List.reverse_eq_nil_iff] at h
  rw [List.reverse_append, List.dropWhile_append, if_neg (by simpa using h), List.reverse_append,
    List.reverse_reverse]

theorem trimEnd_concat {c : Char} (hc : isBlank c = false) (x : Text) :
    trimEnd (x ++ [c]) = x ++ [c] := by
  unfold trimEnd
  rw [List.reverse_append, List.reverse_singleton, List.singleton_append,
    List.dropWhile_cons_of_neg (by simp [hc]), List.reverse_cons, List.reverse_reverse]

theorem trimEnd_isPrefix (x : Text) : trimEnd x <+: x := by
  rw [← List.reverse_suffix]
  unfold trimEnd
  rw [List.reverse_reverse]
  exact List.dropWhile_suffix isBlank

theorem isBlank_getLast?_trimEnd {c : Char} (h : (trimEnd x).getLast? = some c) :
    isBlank c = false := by
  unfold trimEnd at h
  rw [List.getLast?_reverse] at h
  have hhead := List.head?_dropWhile_not isBlank x.reverse
  rw [h] at hhead
  exact hhead

theorem trimEnd_trimEnd (x : Text) : trimEnd (trimEnd x) = trimEnd x := by
  unfold trimEnd
  rw [List.reverse_reverse, List.dropWhile_idempotent]

theorem trimEnd_append_trimEnd (x y : Text) : trimEnd (x ++ trimEnd y) = trimEnd (x ++ y) := by
  by_cases h : trimEnd y = []
  · rw [h, trimEnd_append_of_eq_nil h, List.append_nil]
  · have h' : trimEnd (trimEnd y) ≠ [] := by
      rw [trimEnd_trimEnd]
      exact h
    rw [trimEnd_append_of_ne_nil h', trimEnd_append_of_ne_nil h, trimEnd_trimEnd]

theorem takeWhile_append_trimStart (x : Text) : x.takeWhile isBlank ++ trimStart x = x :=
  List.takeWhile_append_dropWhile

end SchemaTypes.Text
