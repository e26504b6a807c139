import AthenaModels.Proofs.Ascending
import AthenaModels.Query.Result
import Mathlib.Data.List.Forall2
import Mathlib.Data.Set.Basic

namespace AthenaModels.Result

variable {result other : Result} {row tuple : Row} {name : String} {names : List String}
  {index : Nat} {indices : List Nat} {value : Option String}

def HasColumns (result : Result) (names : List String) : Prop :=
  ∀ name ∈ names, ∃ column ∈ result.columns, column.name = name

/-- Of the columns with the name, this is the first. -/
structure IsFirst (result : Result) (name : String) (index : Nat) : Prop where
  named : result.columns[index]?.map Column.name = some name
  least : ∀ i < index, result.columns[i]?.map Column.name ≠ some name

inductive Holds (row : Row) (index : Nat) : Option String → Prop where
  | inside {value : Option String} (found : row[index]? = some value) : Holds row index value
  | outside (short : row.length ≤ index) : Holds row index none

def Reads (result : Result) (names : List String) (row tuple : Row) : Prop :=
  List.Forall₂ (fun name value => ∃ index, result.IsFirst name index ∧ Holds row index value)
    names tuple

def tuples (result : Result) (names : List String) : Set Row :=
  {tuple | ∃ row ∈ result.rows, result.Reads names row tuple}

/-- The rows are the same ones, in any order and any number of times. -/
structure Reordered (result other : Result) : Prop where
  columns : other.columns = result.columns
  rows : ∀ row, row ∈ other.rows ↔ row ∈ result.rows

theorem Reordered.tuples_eq (reordered : result.Reordered other) :
    other.tuples names = result.tuples names := by
  ext tuple
  simp only [tuples, Reads, Set.mem_ofPred_eq, reordered.rows]
  have first : ∀ name index, other.IsFirst name index ↔ result.IsFirst name index := by
    intro name index
    constructor
    · rintro ⟨named, least⟩
      rw [reordered.columns] at named least
      exact ⟨named, least⟩
    · rintro ⟨named, least⟩
      rw [← reordered.columns] at named least
      exact ⟨named, least⟩
  simp only [first]

theorem Reordered.hasColumns (reordered : result.Reordered other)
    (known : result.HasColumns names) : other.HasColumns names := by
  rw [HasColumns, reordered.columns]
  exact known

theorem columnIndex?_eq_some_iff :
    result.columnIndex? name = some index ↔ result.IsFirst name index := by
  rw [columnIndex?, List.findIdx?_eq_some_iff_getElem]
  constructor
  · rintro ⟨inside, named, least⟩
    refine ⟨by simpa [inside] using named, ?_⟩
    intro i before
    have unlike := least i before
    simpa [Nat.lt_trans before inside] using unlike
  · rintro ⟨named, least⟩
    obtain ⟨column, found, rfl⟩ := Option.map_eq_some_iff.mp named
    obtain ⟨inside, rfl⟩ := List.getElem?_eq_some_iff.mp found
    refine ⟨inside, by simp, ?_⟩
    intro i before
    have unlike := least i before
    simpa [Nat.lt_trans before inside] using unlike

theorem holds_iff : Holds row index value ↔ value = cell row index := by
  constructor
  · intro holds
    cases holds with
    | inside found => rw [cell, found, Option.join_some]
    | outside short => rw [cell, List.getElem?_eq_none short, Option.join_none]
  · rintro rfl
    cases found : row[index]? with
    | some value =>
        rw [cell, found]
        exact .inside found
    | none =>
        rw [cell, found]
        exact .outside (List.getElem?_eq_none_iff.mp found)

theorem mapM_columnIndex?_iff :
    names.mapM result.columnIndex? = some indices ↔ List.Forall₂ result.IsFirst names indices := by
  induction names generalizing indices with
  | nil => simp [eq_comm]
  | cons name names ih =>
      rw [List.mapM_cons, List.forall₂_cons_left_iff]
      simp only [Option.bind_eq_bind, Option.bind_eq_some_iff, columnIndex?_eq_some_iff, ih]
      constructor
      · rintro ⟨index, here, others, later, made⟩
        cases made
        exact ⟨index, others, here, later, rfl⟩
      · rintro ⟨index, others, here, later, rfl⟩
        exact ⟨index, here, others, later, rfl⟩

theorem reads_iff (first : List.Forall₂ result.IsFirst names indices) :
    result.Reads names row tuple ↔ tuple = indices.map (cell row) := by
  induction first generalizing tuple with
  | nil => simp [Reads]
  | @cons name index names indices here _ ih =>
      rw [Reads, List.forall₂_cons_left_iff]
      have only : ∀ value,
          (∃ i, result.IsFirst name i ∧ Holds row i value) ↔ value = cell row index := by
        intro value
        rw [← holds_iff]
        refine ⟨?_, fun holds => ⟨index, here, holds⟩⟩
        rintro ⟨i, found, holds⟩
        have same := columnIndex?_eq_some_iff.mpr found
        rw [columnIndex?_eq_some_iff.mpr here] at same
        cases same
        exact holds
      simp only [only]
      constructor
      · rintro ⟨_, values, rfl, reads, rfl⟩
        rw [List.map_cons, ← ih.mp reads]
      · rintro rfl
        exact ⟨_, _, rfl, ih.mpr rfl, rfl⟩

theorem exists_indices (known : result.HasColumns names) :
    ∃ indices, List.Forall₂ result.IsFirst names indices := by
  induction names with
  | nil => exact ⟨[], .nil⟩
  | cons name names ih =>
      obtain ⟨here, later⟩ := List.forall_mem_cons.mp known
      obtain ⟨indices, first⟩ := ih later
      obtain ⟨column, listed, named⟩ := here
      have found : (result.columnIndex? name).isSome := by
        rw [columnIndex?, List.findIdx?_isSome, List.any_eq_true]
        exact ⟨column, listed, decide_eq_true named⟩
      obtain ⟨index, found⟩ := Option.isSome_iff_exists.mp found
      exact ⟨index :: indices, .cons (columnIndex?_eq_some_iff.mp found) first⟩

/-- The tuples can be told when the columns are there, and these are all of them. -/
theorem mem_distinctTuples? (known : result.HasColumns names) :
    ∃ tuples, result.distinctTuples? names = some tuples ∧
      ∀ tuple, tuple ∈ tuples ↔ tuple ∈ result.tuples names := by
  obtain ⟨indices, first⟩ := exists_indices known
  refine ⟨_, by rw [distinctTuples?, mapM_columnIndex?_iff.mpr first]; rfl, ?_⟩
  intro tuple
  simp only [Ascending.mem_ofList, List.mem_map, tuples, Set.mem_ofPred_eq, reads_iff first, eq_comm]

end AthenaModels.Result
