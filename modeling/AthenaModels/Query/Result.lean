import AthenaModels.Ascending
import AthenaModels.Query.Basic

namespace AthenaModels.Result

def columnIndex? (result : Result) (name : String) : Option Nat :=
  result.columns.findIdx? (·.name = name)

/-- The value in a row; a short row has no value there. -/
def cell (row : Row) (index : Nat) : Option String :=
  (row[index]?).join

/-- The value in a row of a column; none also if there is no such row or column. -/
def value? (result : Result) (row : Nat) (name : String) : Option String := do
  let index ← result.columnIndex? name
  cell (← result.rows[row]?) index

def columnValues? (result : Result) (name : String) : Option Row := do
  let index ← result.columnIndex? name
  some (result.rows.map (cell · index))

/-- The tuples of values of some columns, in ascending order and each once. -/
def distinctTuples? (result : Result) (names : List String) : Option (List Row) := do
  let indices ← names.mapM result.columnIndex?
  some (Ascending.ofList (result.rows.map fun row => indices.map (cell row)))

end AthenaModels.Result
