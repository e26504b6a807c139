import AthenaModels.Text.Basic
import Mathlib.Data.List.DropRight
import Mathlib.Data.List.TakeWhile

namespace AthenaModels.Text

theorem toList_trimEnd (text : String) : (trimEnd text).toList = text.toList.rdropWhile isBlank :=
  String.toList_ofList

theorem toList_trim (text : String) :
    (trim text).toList = (text.toList.dropWhile isBlank).rdropWhile isBlank :=
  String.toList_ofList

variable {α : Type} {p : α → Bool} {items : List α}

theorem rdropWhile_eq_self (kept : ∀ item ∈ items, p item = false) :
    items.rdropWhile p = items := by
  refine List.rdropWhile_eq_self_iff.mpr fun some => ?_
  simp [kept _ (List.getLast_mem some)]

theorem rdropWhile_append (front items : List α) :
    (front ++ items).rdropWhile p =
      if items.all p then front.rdropWhile p else front ++ items.rdropWhile p := by
  have reversed : (items.reverse.dropWhile p).isEmpty = items.all p := by
    rw [Bool.eq_iff_iff, List.isEmpty_iff, List.dropWhile_eq_nil_iff, List.all_eq_true]
    simp
  rw [List.rdropWhile, List.reverse_append, List.dropWhile_append, reversed]
  split
  · rfl
  · rw [List.reverse_append, List.reverse_reverse]
    rfl

theorem rdropWhile_append_inj (front : List α) {others : List α} :
    (front ++ items).rdropWhile p = (front ++ others).rdropWhile p ↔
      items.rdropWhile p = others.rdropWhile p := by
  have dropped : ∀ {rest : List α}, rest.all p = true ↔ rest.rdropWhile p = [] := by
    intro rest
    rw [List.all_eq_true, List.rdropWhile_eq_nil_iff]
  have longer : ∀ {rest : List α}, ¬rest.all p = true →
      front.rdropWhile p ≠ front ++ rest.rdropWhile p := by
    intro rest some same
    have short := (List.rdropWhile_prefix p front).length_le
    have long := List.length_pos_of_ne_nil (mt dropped.mpr some)
    rw [same, List.length_append] at short
    omega
  rw [rdropWhile_append, rdropWhile_append]
  split
  · next all =>
      rw [dropped.mp all]
      split
      · next all' => simp [dropped.mp all']
      · next some' => exact iff_of_false (longer some') (Ne.symm (mt dropped.mpr some'))
  · next some =>
      split
      · next all' =>
          rw [dropped.mp all']
          exact iff_of_false (Ne.symm (longer some)) (mt dropped.mpr some)
      · exact List.append_right_inj front

theorem getLast?_rdropWhile {item : α} (last : (items.rdropWhile p).getLast? = some item) :
    p item = false := by
  obtain ⟨front, shape⟩ := List.getLast?_eq_some_iff.mp last
  have kept := List.rdropWhile_last_not p items (by simp [shape])
  simpa [shape] using kept

theorem dropWhile_append_of_head {rest : List α}
    (kept : ∀ item, rest.head? = some item → p item = false) :
    (items ++ rest).dropWhile p = items.dropWhile p ++ rest := by
  rw [List.dropWhile_append]
  split
  · next none =>
      rw [List.isEmpty_iff.mp none, List.nil_append]
      cases rest with
      | nil => rfl
      | cons item rest => exact List.dropWhile_cons_of_neg (by simp [kept item rfl])
  · rfl

end AthenaModels.Text
