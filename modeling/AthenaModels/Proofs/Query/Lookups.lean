import AthenaModels.Proofs.Partition.Order
import AthenaModels.Proofs.Query.Tuples

namespace AthenaModels.Result

variable {result other : Result} {row tuple values : Row} {name text : String}
  {names : List String} {i index : Nat} {indices : List Nat} {tuples : List Row}

def TupleBefore : Row → Row → Prop := List.Lex Partition.ValueBefore

structure ListsColumn (result : Result) (name : String) (values : Row) : Prop where
  length : values.length = result.rows.length
  value : ∀ i < result.rows.length, values[i]? = some (result.value? i name)

/-- The values of the rows in some columns, in one order whatever that of the rows is. -/
structure ListsTuples (result : Result) (names : List String) (tuples : List Row) : Prop where
  ascending : tuples.Pairwise TupleBefore
  nodup : tuples.Nodup
  mem_iff : ∀ tuple, tuple ∈ tuples ↔
    ∃ i < result.rows.length, tuple = names.map (result.value? i)

theorem value?_of_isFirst (first : result.IsFirst name index) (there : result.rows[i]? = some row) :
    result.value? i name = cell row index := by
  rw [value?, columnIndex?_eq_some_iff.mpr first, there]
  rfl

theorem value?_of_length_le (outside : result.rows.length ≤ i) : result.value? i name = none := by
  rw [value?, List.getElem?_eq_none outside]
  cases result.columnIndex? name <;> rfl

theorem value?_eq_some_iff : result.value? i name = some text ↔
    ∃ index row, result.IsFirst name index ∧ result.rows[i]? = some row ∧
      row[index]? = some (some text) := by
  simp only [value?, Option.bind_eq_bind, Option.bind_eq_some_iff, columnIndex?_eq_some_iff, cell,
    Option.join_eq_some_iff]
  constructor
  · rintro ⟨index, first, row, there, held⟩
    exact ⟨index, row, first, there, held⟩
  · rintro ⟨index, row, first, there, held⟩
    exact ⟨index, first, row, there, held⟩

theorem columnIndex?_eq_none_iff :
    result.columnIndex? name = none ↔ ∀ column ∈ result.columns, column.name ≠ name := by
  simp [columnIndex?, List.findIdx?_eq_none_iff]

theorem columnValues?_eq_none_iff :
    result.columnValues? name = none ↔ ∀ column ∈ result.columns, column.name ≠ name := by
  rw [← columnIndex?_eq_none_iff, columnValues?]
  cases result.columnIndex? name <;> simp

theorem listsColumn_of_columnValues? (told : result.columnValues? name = some values) :
    result.ListsColumn name values := by
  obtain ⟨index, found, made⟩ := Option.bind_eq_some_iff.mp told
  cases made
  refine ⟨List.length_map _, fun i inside => ?_⟩
  have there := List.getElem?_eq_getElem inside
  rw [List.getElem?_map, there, value?_of_isFirst (columnIndex?_eq_some_iff.mp found) there]
  rfl

theorem hasColumns_of_isFirst (first : List.Forall₂ result.IsFirst names indices) :
    result.HasColumns names := by
  induction first with
  | nil => exact nofun
  | cons here _ ih =>
      obtain ⟨column, found, named⟩ := Option.map_eq_some_iff.mp here.named
      exact List.forall_mem_cons.mpr ⟨⟨column, List.mem_of_getElem? found, named⟩, ih⟩

theorem strict_distinctTuples? (told : result.distinctTuples? names = some tuples) :
    result.HasColumns names ∧ Ascending.Strict tuples := by
  obtain ⟨indices, mapped, made⟩ := Option.bind_eq_some_iff.mp told
  cases made
  exact ⟨hasColumns_of_isFirst (mapM_columnIndex?_iff.mp mapped), Ascending.strict_ofList _⟩

theorem distinctTuples?_eq_none_iff :
    result.distinctTuples? names = none ↔ ¬result.HasColumns names := by
  constructor
  · intro none known
    obtain ⟨tuples, told, _⟩ := mem_distinctTuples? known
    cases none.symm.trans told
  · intro unknown
    rw [Option.eq_none_iff_forall_ne_some]
    exact fun tuples told => unknown (strict_distinctTuples? told).1

theorem map_value? (first : List.Forall₂ result.IsFirst names indices)
    (there : result.rows[i]? = some row) :
    names.map (result.value? i) = indices.map (cell row) := by
  induction first with
  | nil => rfl
  | cons here _ ih => rw [List.map_cons, List.map_cons, value?_of_isFirst here there, ih]

theorem mem_tuples_iff (known : result.HasColumns names) : tuple ∈ result.tuples names ↔
    ∃ i < result.rows.length, tuple = names.map (result.value? i) := by
  obtain ⟨indices, first⟩ := exists_indices known
  simp only [tuples, Set.mem_ofPred_eq, reads_iff first]
  constructor
  · rintro ⟨row, member, rfl⟩
    obtain ⟨i, there⟩ := List.mem_iff_getElem?.mp member
    exact ⟨i, (List.getElem?_eq_some_iff.mp there).1, (map_value? first there).symm⟩
  · rintro ⟨i, inside, rfl⟩
    exact ⟨_, List.getElem_mem inside, map_value? first (List.getElem?_eq_getElem inside)⟩

theorem listsTuples_of_distinctTuples? (told : result.distinctTuples? names = some tuples) :
    result.ListsTuples names tuples := by
  obtain ⟨known, strict⟩ := strict_distinctTuples? told
  obtain ⟨_, again, all⟩ := mem_distinctTuples? known
  cases told.symm.trans again
  refine ⟨strict.imp ?_, strict.nodup, fun tuple => (all tuple).trans (mem_tuples_iff known)⟩
  exact (Ascending.lex_iff fun _ _ => Partition.valueBefore_iff).mpr

theorem distinctTuples?_reordered (reordered : result.Reordered other) :
    other.distinctTuples? names = result.distinctTuples? names := by
  cases told : result.distinctTuples? names with
  | none =>
      rw [distinctTuples?_eq_none_iff, HasColumns] at told
      rwa [distinctTuples?_eq_none_iff, HasColumns, reordered.columns]
  | some tuples =>
      obtain ⟨known, strict⟩ := strict_distinctTuples? told
      obtain ⟨_, again, all⟩ := mem_distinctTuples? known
      cases told.symm.trans again
      obtain ⟨tuples', told', all'⟩ := mem_distinctTuples? (reordered.hasColumns known)
      rw [reordered.tuples_eq] at all'
      rw [told', (strict_distinctTuples? told').2.eq_of_mem_iff strict]
      exact fun tuple => (all' tuple).trans (all tuple).symm

/-- Values looked up by the row, by the column or as tuples are the same ones, and rows that are too
short or columns of one name are read in one way. -/
theorem lookups_agree (result : Result) :
    (∀ i name text, result.value? i name = some text ↔ ∃ index row, result.IsFirst name index ∧
      result.rows[i]? = some row ∧ row[index]? = some (some text)) ∧
    (∀ i name, result.rows.length ≤ i → result.value? i name = none) ∧
    (∀ name, result.columnValues? name = none ↔ ∀ column ∈ result.columns, column.name ≠ name) ∧
    (∀ name values, result.columnValues? name = some values → result.ListsColumn name values) ∧
    (∀ names, result.distinctTuples? names = none ↔ ¬result.HasColumns names) ∧
    (∀ names tuples, result.distinctTuples? names = some tuples →
      result.ListsTuples names tuples) ∧
    ∀ names other, result.Reordered other →
      other.distinctTuples? names = result.distinctTuples? names :=
  ⟨fun _ _ _ => value?_eq_some_iff, fun _ _ => value?_of_length_le,
    fun _ => columnValues?_eq_none_iff, fun _ _ => listsColumn_of_columnValues?,
    fun _ => distinctTuples?_eq_none_iff, fun _ _ => listsTuples_of_distinctTuples?,
    fun _ _ => distinctTuples?_reordered⟩

/-- Two columns have one name, and some rows are short. -/
def ragged : Result where
  columns := ["day", "n", "day"].map (⟨·, "varchar"⟩)
  rows := [[some "2", none, some "9"], [some "1"], [none, some "7"], [some "1"], []]
  metadata := ⟨"", 0, 0, .succeeded, none, 1, ⟨0, 0⟩⟩

theorem lookups_agree_ragged :
    ragged.ListsColumn "day" [some "2", some "1", none, some "1", none] ∧
    ragged.ListsTuples ["n", "day"]
      [[none, none], [none, some "1"], [none, some "2"], [some "7", none]] ∧
    ragged.value? 5 "day" = none ∧
    { ragged with rows := ragged.rows.reverse }.distinctTuples? ["n", "day"] =
      ragged.distinctTuples? ["n", "day"] := by
  obtain ⟨_, beyond, _, column, _, told, reordered⟩ := lookups_agree ragged
  exact ⟨column "day" _ rfl, told ["n", "day"] _ rfl, beyond 5 "day" (by decide),
    reordered _ _ ⟨rfl, fun _ => List.mem_reverse⟩⟩

end AthenaModels.Result
