import AthenaModels.Query.Pages

namespace AthenaModels.Page

variable {page first first' : Page} {others others' : List Page} {metadata : Metadata}
  {rows rows' : List Row} {width : Nat} {outcome outcome' : Except Error Result}

/-- The values of the row are the labels of the columns. -/
def Labels (columns : List Column) (row : Row) : Prop :=
  row.length = columns.length ∧
    ∀ (i : Nat) (value : Option String), row[i]? = some value →
      ∃ column : Column, columns[i]? = some column ∧ value = some column.name

/-- The rows of a first page without the row of labels that only the result of a query has. -/
inductive Remaining (page : Page) : List Row → Prop where
  | skipped {row : Row} {rows : List Row} (all : page.rows = row :: rows)
      (uncounted : page.updateCount = none) (labels : Labels page.columns row) :
      Remaining page rows
  | kept (unlike : ∀ row rows, page.rows = row :: rows → page.updateCount = none →
      ¬ Labels page.columns row) : Remaining page page.rows

/-- What pages make together. -/
inductive Combines (first : Page) (others : List Page) (metadata : Metadata) :
    Except Error Result → Prop where
  | complete {rows : List Row} (remaining : Remaining first rows)
      (regular : ∀ row ∈ rows ++ others.flatMap (·.rows), row.length = first.columns.length) :
      Combines first others metadata
        (.ok ⟨first.columns, rows ++ others.flatMap (·.rows), metadata⟩)
  | ragged {rows : List Row} {index : Nat} {row : Row} (remaining : Remaining first rows)
      (found : (rows ++ others.flatMap (·.rows))[index]? = some row)
      (irregular : row.length ≠ first.columns.length)
      (least : ∀ i < index, ∀ earlier, (rows ++ others.flatMap (·.rows))[i]? = some earlier →
        earlier.length = first.columns.length) :
      Combines first others metadata
        (.error (.malformed ("row " ++ toString index ++ " has " ++ toString row.length ++
          " values, expected " ++ toString first.columns.length)))

theorem isHeader_iff {columns : List Column} {row : Row} :
    isHeader columns row = true ↔ Labels columns row := by
  rw [isHeader, beq_iff_eq]
  constructor
  · intro same
    subst same
    refine ⟨List.length_map _, ?_⟩
    intro i value shown
    rw [List.getElem?_map, Option.map_eq_some_iff] at shown
    obtain ⟨column, found, rfl⟩ := shown
    exact ⟨column, found, rfl⟩
  · intro labels
    obtain ⟨length, labels⟩ := labels
    apply List.ext_getElem?
    intro i
    cases shown : row[i]? with
    | none =>
        have short : columns.length ≤ i := length ▸ List.getElem?_eq_none_iff.mp shown
        simp [List.getElem?_eq_none short]
    | some value =>
        obtain ⟨column, found, rfl⟩ := labels i value shown
        simp [found]

theorem remaining_firstRows (page : Page) : Remaining page page.firstRows := by
  rw [firstRows]
  cases all : page.rows with
  | nil =>
      dsimp only
      rw [← all]
      apply Remaining.kept
      intro row rows listed
      rw [all] at listed
      cases listed
  | cons row rows =>
      dsimp only
      split
      · next skipped =>
          rw [Bool.and_eq_true, Option.isNone_iff_eq_none, isHeader_iff] at skipped
          exact .skipped all skipped.1 skipped.2
      · next different =>
          rw [Bool.and_eq_true, Option.isNone_iff_eq_none, isHeader_iff] at different
          rw [← all]
          apply Remaining.kept
          intro other more listed uncounted labels
          rw [all] at listed
          cases listed
          exact different ⟨uncounted, labels⟩

theorem Remaining.unique (remaining : Remaining page rows) (again : Remaining page rows') :
    rows = rows' := by
  cases remaining with
  | skipped all uncounted labels =>
      cases again with
      | skipped all' =>
          rw [all] at all'
          cases all'
          rfl
      | kept unlike => exact absurd labels (unlike _ _ all uncounted)
  | kept unlike =>
      cases again with
      | skipped all uncounted labels => exact absurd labels (unlike _ _ all uncounted)
      | kept => rfl

theorem regular_of_raggedRow? (none : raggedRow? width rows = none) :
    ∀ row ∈ rows, row.length = width := by
  rw [raggedRow?, Option.map_eq_none_iff, List.find?_eq_none] at none
  intro row member
  obtain ⟨i, inside, rfl⟩ := List.getElem_of_mem member
  have regular := none (rows[i], i) (List.mk_mem_zipIdx_iff_getElem?.mpr (by simp [inside]))
  simpa using regular

theorem found_of_raggedRow? {index length : Nat}
    (found : raggedRow? width rows = some (index, length)) :
    ∃ row : Row, rows[index]? = some row ∧ row.length = length ∧ length ≠ width ∧
      ∀ i < index, ∀ earlier : Row, rows[i]? = some earlier → earlier.length = width := by
  rw [raggedRow?, Option.map_eq_some_iff] at found
  obtain ⟨⟨row, position⟩, found, same⟩ := found
  rw [List.find?_eq_some_iff_getElem] at found
  obtain ⟨irregular, i, inside, here, least⟩ := found
  simp only [List.getElem_zipIdx, Nat.zero_add, Prod.mk.injEq] at here same
  obtain ⟨rfl, rfl⟩ := here
  obtain ⟨rfl, rfl⟩ := same
  rw [List.length_zipIdx] at inside
  refine ⟨rows[i], List.getElem?_eq_getElem inside, rfl, by simpa using irregular, ?_⟩
  intro j less earlier shown
  have regular := least j less
  rw [List.getElem?_eq_getElem (Nat.lt_trans less inside)] at shown
  cases shown
  simpa using regular

theorem combines_merge (first : Page) (others : List Page) (metadata : Metadata) :
    Combines first others metadata (merge (first :: others) metadata) := by
  have remaining := remaining_firstRows first
  rw [merge]
  dsimp only [List.head?_cons, Option.map_some, Option.getD_some, allRows]
  cases ragged : raggedRow? first.columns.length
      (first.firstRows ++ others.flatMap (·.rows)) with
  | none => exact .complete remaining (regular_of_raggedRow? ragged)
  | some found =>
      obtain ⟨index, length⟩ := found
      obtain ⟨row, here, rfl, irregular, least⟩ := found_of_raggedRow? ragged
      exact .ragged remaining here irregular least

theorem Combines.unique (combines : Combines first others metadata outcome)
    (again : Combines first others metadata outcome') : outcome = outcome' := by
  cases combines with
  | complete remaining regular =>
      cases again with
      | complete remaining' => rw [remaining.unique remaining']
      | ragged remaining' found irregular =>
          rw [← remaining.unique remaining'] at found
          exact absurd (regular _ (List.mem_of_getElem? found)) irregular
  | @ragged rows index row remaining found irregular least =>
      cases again with
      | complete remaining' regular =>
          rw [remaining.unique remaining'] at found
          exact absurd (regular _ (List.mem_of_getElem? found)) irregular
      | @ragged rows' index' row' remaining' found' irregular' least' =>
          cases remaining.unique remaining'
          -- Neither index is before the other one.
          obtain before | rfl | after := Nat.lt_trichotomy index index'
          · exact absurd (least' index before row found) irregular
          · rw [found] at found'
            cases found'
            rfl
          · exact absurd (least index' after row' found') irregular'

theorem combines_iff_merge :
    Combines first others metadata outcome ↔ outcome = merge (first :: others) metadata := by
  constructor
  · exact fun combines => combines.unique (combines_merge first others metadata)
  · intro same
    rw [same]
    exact combines_merge first others metadata

/-- Where the pages are cut does not matter, as long as the first one has the first row. -/
theorem merge_recut (columns : first.columns = first'.columns)
    (counts : first.updateCount = first'.updateCount) (filled : first.rows ≠ [])
    (filled' : first'.rows ≠ [])
    (same : first.rows ++ others.flatMap (·.rows) = first'.rows ++ others'.flatMap (·.rows)) :
    merge (first :: others) metadata = merge (first' :: others') metadata := by
  obtain ⟨row, rows, listed⟩ := List.exists_cons_of_ne_nil filled
  obtain ⟨row', rows', listed'⟩ := List.exists_cons_of_ne_nil filled'
  rw [listed, listed', List.cons_append, List.cons_append, List.cons.injEq] at same
  obtain ⟨rfl, same⟩ := same
  have all : allRows (first :: others) = allRows (first' :: others') := by
    rw [allRows, allRows, firstRows, firstRows, listed, listed', columns, counts]
    dsimp only
    split
    · exact same
    · rw [List.cons_append, List.cons_append, same]
  rw [merge, merge, all]
  dsimp only [List.head?_cons, Option.map_some, Option.getD_some]
  rw [columns]

end AthenaModels.Page
