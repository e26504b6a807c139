import AthenaModels.Proofs.Text.Splitting
import AthenaModels.Query.Printed
import Mathlib.Algebra.Ring.Nat
import Mathlib.Data.List.Forall2

namespace AthenaModels

theorem Text.length_le_utf8ByteSize (text : String) : text.length ≤ text.utf8ByteSize := by
  have letters : ∀ cs : List Char, cs.length ≤ (String.ofList cs).utf8ByteSize := by
    intro cs
    induction cs with
    | nil => exact Nat.zero_le _
    | cons c cs ih =>
        have split : String.ofList (c :: cs) = String.singleton c ++ String.ofList cs :=
          String.toList_injective (by simp)
        have some := c.utf8Size_pos
        rw [split, String.utf8ByteSize_append, String.utf8ByteSize_singleton, List.length_cons]
        omega
  rw [← String.length_toList]
  simpa using letters text.toList

namespace Result

variable {result : Result} {widths : List Nat} {mark fill : Char} {texts : List String}
  {line text : String} {width j : Nat}

/-- The texts of a column: its label, and its values in all rows. -/
def columnTexts (result : Result) (j : Nat) : List String :=
  ((result.columns[j]?).map Column.name).toList ++
    (result.rows.filterMap (·[j]?)).map cellText

/-- The position of a field: three characters follow each field before it. -/
def start (widths : List Nat) (j : Nat) : Nat := ((widths.take j).map (· + 3)).sum

def span (line : String) (position width : Nat) : List Char :=
  (line.toList.drop position).take width

/-- A line with a field for each text: the text itself, filled up to the width of the field. -/
structure Aligned (mark : String) (fill : Char) (widths : List Nat) (texts : List String)
    (line : String) : Prop where
  length : line.length = widths.sum + 3 * (widths.length - 1)
  field : ∀ j width text, widths[j]? = some width → texts[j]? = some text →
    text.length ≤ width ∧ span line (start widths j) width =
      text.toList ++ List.replicate (width - text.length) fill
  mark : ∀ j width, widths[j]? = some width → j + 1 < widths.length →
    span line (start widths j + width) 3 = mark.toList

section
variable {mark field : List Char} {fields : List (List Char)}

theorem length_intercalate (three : mark.length = 3) (some : fields ≠ []) :
    (mark.intercalate fields).length =
      (fields.map List.length).sum + 3 * (fields.length - 1) := by
  induction fields with
  | nil => exact absurd rfl some
  | cons field fields ih =>
      cases fields with
      | nil => simp
      | cons next fields =>
          rw [List.intercalate_cons_cons, List.length_append, List.length_append,
            ih (List.cons_ne_nil _ _), three]
          simp only [List.map_cons, List.sum_cons, List.length_cons]
          omega

theorem intercalate_split (three : mark.length = 3) (found : fields[j]? = some field) :
    ∃ before after, mark.intercalate fields = before ++ (field ++ after) ∧
      before.length = start (fields.map List.length) j ∧
      (j + 1 < fields.length → mark <+: after) := by
  induction fields generalizing j with
  | nil => cases found
  | cons first fields ih =>
      cases j with
      | zero =>
          obtain rfl := Option.some.inj found
          cases fields with
          | nil => exact ⟨[], [], by simp, rfl, fun more => absurd more (by simp)⟩
          | cons next fields =>
              refine ⟨[], mark ++ mark.intercalate (next :: fields), ?_, rfl,
                fun _ => List.prefix_append _ _⟩
              rw [List.intercalate_cons_cons, List.append_assoc, List.nil_append]
      | succ j =>
          obtain ⟨before, after, whole, position, next⟩ := ih found
          have filled : fields ≠ [] := by
            rintro rfl
            cases found
          obtain ⟨second, others, rfl⟩ := List.exists_cons_of_ne_nil filled
          refine ⟨first ++ mark ++ before, after, ?_, ?_, ?_⟩
          · rw [List.intercalate_cons_cons, whole, List.append_assoc (first ++ mark)]
          · rw [List.length_append, List.length_append, three, position]
            simp [start]
          · exact fun more => next (by simpa using more)

end

def filled (fill : Char) (width : Nat) (text : String) : List Char :=
  text.toList ++ List.replicate (width - text.length) fill

theorem length_filled (fits : text.length ≤ width) : (filled fill width text).length = width := by
  rw [filled, List.length_append, List.length_replicate, String.length_toList]
  omega

def Fits : List Nat → List String → Prop :=
  List.Forall₂ fun width text => text.length ≤ width

theorem map_length_filled (fits : Fits widths texts) :
    (List.zipWith (filled fill) widths texts).map List.length = widths := by
  induction fits with
  | nil => rfl
  | cons here _ ih => rw [List.zipWith_cons_cons, List.map_cons, length_filled here, ih]

theorem exists_field {mark : String} (three : mark.toList.length = 3) (fits : Fits widths texts)
    (shape : line.toList = mark.toList.intercalate (List.zipWith (filled fill) widths texts))
    (here : widths[j]? = some width) (here' : texts[j]? = some text) :
    ∃ before field after, line.toList = before ++ (field ++ after) ∧
      before.length = start widths j ∧ field.length = width ∧ field = filled fill width text ∧
      (j + 1 < widths.length → mark.toList <+: after) := by
  have lengths : (List.zipWith (filled fill) widths texts).map List.length = widths :=
    map_length_filled fits
  have found : (List.zipWith (filled fill) widths texts)[j]? = some (filled fill width text) := by
    rw [List.getElem?_zipWith, here, here']
  obtain ⟨before, after, whole, position, next⟩ := intercalate_split three found
  have size : ((List.zipWith (filled fill) widths texts).map List.length)[j]? =
      some (filled fill width text).length := by
    rw [List.getElem?_map, found, Option.map_some]
  rw [lengths] at position size
  refine ⟨before, _, after, shape.trans whole, position, ?_, rfl, fun more => next ?_⟩
  · exact (Option.some.inj (here.symm.trans size)).symm
  · rwa [← List.length_map List.length, lengths]

theorem aligned_of_toList {mark : String} (three : mark.toList.length = 3) (columned : widths ≠ [])
    (fits : Fits widths texts)
    (shape : line.toList = mark.toList.intercalate (List.zipWith (filled fill) widths texts)) :
    Aligned mark fill widths texts line := by
  have lengths : (List.zipWith (filled fill) widths texts).map List.length = widths :=
    map_length_filled fits
  have count : (List.zipWith (filled fill) widths texts).length = widths.length := by
    rw [← List.length_map List.length, lengths]
  refine ⟨?_, ?_, ?_⟩
  · have some : List.zipWith (filled fill) widths texts ≠ [] := by
      rw [← List.length_pos_iff, count]
      exact List.length_pos_of_ne_nil columned
    rw [← String.length_toList, shape, length_intercalate three some, lengths, count]
  · intro j width text here here'
    obtain ⟨before, field, after, whole, position, size, made, _⟩ :=
      exists_field three fits shape here here'
    constructor
    · rw [made, filled, List.length_append, List.length_replicate, String.length_toList] at size
      omega
    · rw [span, whole, ← position, List.drop_left, List.take_left' size, made, filled]
  · intro j width here more
    have inside : j < texts.length := fits.length_eq ▸ Nat.lt_of_succ_lt more
    obtain ⟨before, field, after, whole, position, size, _, next⟩ :=
      exists_field three fits shape here (List.getElem?_eq_getElem inside)
    obtain ⟨rest, rfl⟩ := next more
    rw [span, whole, ← position, ← size, ← List.append_assoc, ← List.length_append,
      List.drop_left, ← three, List.take_left]

theorem length_widths (result : Result) : result.widths.length = result.columns.length := by
  simp [Result.widths]

/-- A column is as wide as its longest text has bytes. -/
theorem max?_of_widths (here : result.widths[j]? = some width) :
    ((result.columnTexts j).map String.utf8ByteSize).max? = some width := by
  rw [Result.widths, List.getElem?_map, List.getElem?_zipIdx] at here
  obtain ⟨⟨column, index⟩, found, rfl⟩ := Option.map_eq_some_iff.mp here
  obtain ⟨_, there, same⟩ := Option.map_eq_some_iff.mp found
  cases same
  rw [columnTexts, there, Option.map_some, Option.toList_some, List.singleton_append, List.map_cons,
    List.max?_cons', List.foldl_map, List.foldl_map, Nat.zero_add]

theorem length_le_of_widths (here : result.widths[j]? = some width)
    (member : text ∈ result.columnTexts j) : text.length ≤ width := by
  have largest := List.max?_eq_some_iff.mp (max?_of_widths here)
  exact Nat.le_trans (Text.length_le_utf8ByteSize text)
    (largest.2 _ (List.mem_map_of_mem member))

theorem fits_of_columnTexts (count : texts.length = result.columns.length)
    (listed : ∀ j text, texts[j]? = some text → text ∈ result.columnTexts j) :
    Fits result.widths texts := by
  refine List.forall₂_iff_get.mpr ⟨by rw [length_widths, count], fun j wide inside => ?_⟩
  exact length_le_of_widths (List.getElem?_eq_getElem wide)
    (listed j _ (List.getElem?_eq_getElem inside))

theorem fits_labels (result : Result) :
    Fits result.widths (result.columns.map Column.name) := by
  refine fits_of_columnTexts (List.length_map _) fun j text shown => ?_
  rw [List.getElem?_map] at shown
  simp [columnTexts, shown]

theorem fits_row {row : Row} (member : row ∈ result.rows)
    (regular : row.length = result.columns.length) :
    Fits result.widths (row.map cellText) := by
  refine fits_of_columnTexts ((List.length_map _).trans regular) fun j text shown => ?_
  rw [List.getElem?_map] at shown
  obtain ⟨value, there, rfl⟩ := Option.map_eq_some_iff.mp shown
  refine List.mem_append_right _ (List.mem_map_of_mem ?_)
  exact List.mem_filterMap.mpr ⟨row, member, there⟩

theorem toList_padded (width : Nat) (text : String) :
    (padded width text).toList = filled ' ' width text := by
  rw [padded, String.toList_append, String.toList_ofList, filled]

theorem aligned_line (columned : widths ≠ []) (fits : Fits widths texts) :
    Aligned " | " ' ' widths texts (Result.line widths texts) := by
  refine aligned_of_toList (by decide) columned fits ?_
  simp only [Result.line, String.toList_intercalate, List.map_zipWith, toList_padded]

theorem aligned_ruler (columned : widths ≠ []) :
    Aligned "-+-" '-' widths (widths.map fun _ => "") (ruler widths) := by
  refine aligned_of_toList (by decide) columned ?_ ?_
  · rw [Fits, List.forall₂_map_right_iff, List.forall₂_same]
    exact fun width _ => Nat.zero_le width
  · rw [ruler, String.toList_intercalate, List.zipWith_map_right, List.zipWith_self, List.map_map]
    simp [Function.comp_def, filled]

theorem not_mem_line (single : ∀ text ∈ texts, '\n' ∉ text.toList) :
    '\n' ∉ (Result.line widths texts).toList := by
  intro member
  rcases Text.mem_of_mem_intercalate member with between | ⟨part, listed, inside⟩
  · exact absurd between (by decide)
  · obtain ⟨j, there⟩ := List.mem_iff_getElem?.mp listed
    obtain ⟨width, text, _, shown, rfl⟩ := List.getElem?_zipWith_eq_some.mp there
    rw [toList_padded, filled, List.mem_append] at inside
    rcases inside with here | after
    · exact single text (List.mem_of_getElem? shown) here
    · cases List.eq_of_mem_replicate after

theorem not_mem_ruler (widths : List Nat) : '\n' ∉ (ruler widths).toList := by
  intro member
  rcases Text.mem_of_mem_intercalate member with between | ⟨part, listed, inside⟩
  · exact absurd between (by decide)
  · obtain ⟨width, _, rfl⟩ := List.mem_map.mp listed
    rw [String.toList_ofList] at inside
    cases List.eq_of_mem_replicate inside

structure SingleLined (result : Result) : Prop where
  labels : ∀ column ∈ result.columns, '\n' ∉ column.name.toList
  values : ∀ row ∈ result.rows, ∀ text : String, some text ∈ row → '\n' ∉ text.toList

theorem SingleLined.not_mem_tableLines (single : result.SingleLined) :
    ∀ line ∈ result.tableLines, '\n' ∉ line.toList := by
  simp only [tableLines, List.forall_mem_cons, List.forall_mem_map]
  refine ⟨not_mem_line ?_, not_mem_ruler _, fun row listed => not_mem_line ?_⟩
  · exact List.forall_mem_map.mpr single.labels
  · refine List.forall_mem_map.mpr fun value member => ?_
    cases value with
    | none => exact (by decide : '\n' ∉ (cellText none).toList)
    | some text => exact single.values row listed text member

theorem split_printed (columned : result.columns ≠ []) (single : result.SingleLined) :
    Text.split '\n' result.printed =
      result.tableLines ++ "" :: Text.split '\n' result.footer := by
  obtain ⟨some, apart, joined⟩ := Text.split_eq_iff.mp (rfl : Text.split '\n' result.footer = _)
  refine Text.split_eq_iff.mpr ⟨List.append_ne_nil_of_right_ne_nil _ (List.cons_ne_nil _ _), ?_, ?_⟩
  · intro part member
    rcases List.mem_append.mp member with table | rest
    · exact single.not_mem_tableLines part table
    · rcases List.mem_cons.mp rest with rfl | footer
      · exact List.not_mem_nil
      · exact apart part footer
  · have printed : result.printed =
        String.join (result.tableLines.map (· ++ "\n")) ++ "\n" ++ result.footer := by
      rw [printed, if_neg (by simpa using columned)]
    rw [Text.intercalate_append _ _ (List.cons_ne_nil _ _),
      String.intercalate_cons_of_ne_nil some, joined, printed]
    simp [String.append_assoc]

/-- The lines of a printed table have their fields at the same positions, and these are as wide as
the longest text of their column has bytes. -/
theorem prints_aligned (columned : result.columns ≠ [])
    (regular : ∀ row ∈ result.rows, row.length = result.columns.length)
    (single : result.SingleLined) :
    ∃ (widths : List Nat) (header rule : String) (lines : List String),
      Text.split '\n' result.printed =
        header :: rule :: (lines ++ "" :: Text.split '\n' result.footer) ∧
      widths.length = result.columns.length ∧
      (∀ j width, widths[j]? = some width →
        ((result.columnTexts j).map String.utf8ByteSize).max? = some width) ∧
      Aligned " | " ' ' widths (result.columns.map Column.name) header ∧
      Aligned "-+-" '-' widths (widths.map fun _ => "") rule ∧
      List.Forall₂ (fun row => Aligned " | " ' ' widths (row.map cellText)) result.rows lines := by
  have wide : result.widths ≠ [] := by
    rw [← List.length_pos_iff, length_widths]
    exact List.length_pos_of_ne_nil columned
  refine ⟨result.widths, _, _, _, split_printed columned single, length_widths result,
    fun _ _ => max?_of_widths, aligned_line wide (fits_labels result), aligned_ruler wide, ?_⟩
  rw [List.forall₂_map_right_iff, List.forall₂_same]
  exact fun row member => aligned_line wide (fits_row member (regular row member))

def scripts : Result where
  columns := ["é", "日付"].map (⟨·, "varchar"⟩)
  rows := [[none, some "x"], [some "🙂", some "été"]]
  metadata := ⟨"q-0", 0, 0, .succeeded, none, 1, ⟨0, 0⟩⟩

theorem prints_aligned_scripts :
    scripts.columns ≠ [] ∧ (∀ row ∈ scripts.rows, row.length = scripts.columns.length) ∧
    scripts.SingleLined ∧
    ∃ widths, Aligned " | " ' ' widths ["é", "日付"] "é    | 日付    " ∧
      Aligned "-+-" '-' widths (widths.map fun _ => "") "-----+-------" ∧
      Aligned " | " ' ' widths ["NULL", "x"] "NULL | x     " ∧
      Aligned " | " ' ' widths ["🙂", "été"] "🙂    | été   " := by
  have columned : scripts.columns ≠ [] := List.cons_ne_nil _ _
  have regular : ∀ row ∈ scripts.rows, row.length = scripts.columns.length := by decide
  have single : scripts.SingleLined := ⟨by decide, by simp [scripts]⟩
  obtain ⟨widths, header, rule, lines, split, _, _, first, second, others⟩ :=
    prints_aligned columned regular single
  have table : scripts.tableLines =
      ["é    | 日付    ", "-----+-------", "NULL | x     ", "🙂    | été   "] := by
    decide +kernel
  rw [split_printed columned single, table] at split
  refine ⟨columned, regular, single, widths, ?_⟩
  obtain ⟨third, _, here, more, rfl⟩ := List.forall₂_cons_left_iff.mp others
  obtain ⟨fourth, _, here', none, rfl⟩ := List.forall₂_cons_left_iff.mp more
  cases none
  cases split
  exact ⟨first, second, here, here'⟩

end Result
end AthenaModels
