import AthenaModels.Text.Basic
import Mathlib.Data.List.Basic

namespace AthenaModels.Text

variable {separator : Char}

theorem intercalate_append (separator : String) (parts : List String) {more : List String}
    (some : more ≠ []) :
    separator.intercalate (parts ++ more) =
      String.join (parts.map (· ++ separator)) ++ separator.intercalate more := by
  induction parts with
  | nil => simp
  | cons part parts ih =>
      rw [List.cons_append,
        String.intercalate_cons_of_ne_nil (List.append_ne_nil_of_right_ne_nil _ some), ih,
        List.map_cons, String.join_cons, ← String.append_assoc]

theorem mem_of_mem_intercalate {separator : String} {parts : List String} {c : Char}
    (member : c ∈ (separator.intercalate parts).toList) :
    c ∈ separator.toList ∨ ∃ part ∈ parts, c ∈ part.toList := by
  induction parts with
  | nil => exact absurd member List.not_mem_nil
  | cons part parts ih =>
      cases parts with
      | nil => exact .inr ⟨part, List.mem_cons_self, member⟩
      | cons next parts =>
          rw [String.intercalate_cons_cons, String.toList_append, String.toList_append,
            List.append_assoc] at member
          rcases List.mem_append.mp member with here | member
          · exact .inr ⟨part, List.mem_cons_self, here⟩
          · rcases List.mem_append.mp member with between | later
            · exact .inl between
            · obtain between | ⟨other, listed, inside⟩ := ih later
              · exact .inl between
              · exact .inr ⟨other, List.mem_cons_of_mem _ listed, inside⟩

/-- Parts without the separator are those that the text they make up is split into. -/
theorem split_intercalate {parts : List String} (apart : ∀ part ∈ parts, separator ∉ part.toList)
    (some : parts ≠ []) : split separator (separator.toString.intercalate parts) = parts := by
  have single : separator.toString.toList = [separator] := String.toList_singleton ..
  have lists : ∀ part ∈ parts.map String.toList, separator ∉ part := by
    intro part member
    obtain ⟨text, inside, rfl⟩ := List.mem_map.mp member
    exact apart text inside
  rw [split, String.toList_intercalate, single,
    List.splitOn_intercalate separator lists (by simpa using some)]
  simp

theorem not_mem_of_mem_splitOn {text part : List Char} (member : part ∈ text.splitOn separator) :
    separator ∉ part := by
  induction text generalizing part with
  | nil =>
      obtain rfl := List.mem_singleton.mp member
      exact List.not_mem_nil
  | cons c text ih =>
      rw [List.splitOn_cons_eq_if_modifyHead] at member
      split at member
      · rcases List.mem_cons.mp member with rfl | later
        · exact List.not_mem_nil
        · exact ih later
      · next other =>
          cases shape : text.splitOn separator with
          | nil => exact absurd shape (List.splitOn_ne_nil _ _)
          | cons first parts =>
              rw [shape] at ih member
              rcases List.mem_cons.mp member with rfl | later
              · rw [List.mem_cons, not_or]
                exact ⟨fun same => other (by simp [same]), ih List.mem_cons_self⟩
              · exact ih (List.mem_cons_of_mem _ later)

theorem intercalate_split (separator : Char) (text : String) :
    separator.toString.intercalate (split separator text) = text := by
  have single : separator.toString.toList = [separator] := String.toList_singleton ..
  have lists : (split separator text).map String.toList = text.toList.splitOn separator := by
    simp [split, Function.comp_def]
  apply String.toList_injective
  rw [String.toList_intercalate, single, lists, List.intercalate_splitOn]

theorem split_eq_iff {text : String} {parts : List String} : split separator text = parts ↔
    parts ≠ [] ∧ (∀ part ∈ parts, separator ∉ part.toList) ∧
      separator.toString.intercalate parts = text := by
  constructor
  · rintro rfl
    refine ⟨by simp [split, List.splitOn_ne_nil], ?_, intercalate_split separator text⟩
    intro part member
    obtain ⟨letters, inside, rfl⟩ := List.mem_map.mp member
    simpa using not_mem_of_mem_splitOn inside
  · rintro ⟨some, apart, rfl⟩
    exact split_intercalate apart some

end AthenaModels.Text
