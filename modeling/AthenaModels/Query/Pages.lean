import AthenaModels.Error
import AthenaModels.Query.Basic

namespace AthenaModels.Page

def isHeader (columns : List Column) (row : Row) : Bool :=
  row == columns.map fun column => some column.name

/-- The rows of the first page. Only the result of a query starts with a row of labels, and only
other statements count what they update. -/
def firstRows (page : Page) : List Row :=
  match page.rows with
  | row :: rows =>
      if page.updateCount.isNone && isHeader page.columns row then rows else row :: rows
  | [] => []

def allRows : List Page → List Row
  | [] => []
  | first :: others => first.firstRows ++ others.flatMap (·.rows)

/-- The first row that has not as many values as there are columns. -/
def raggedRow? (width : Nat) (rows : List Row) : Option (Nat × Nat) :=
  (rows.zipIdx.find? fun (row, _) => row.length != width).map fun (row, index) =>
    (index, row.length)

def merge (pages : List Page) (metadata : Metadata) : Except Error Result :=
  let columns := (pages.head?.map (·.columns)).getD []
  let rows := allRows pages
  match raggedRow? columns.length rows with
  | some (index, length) =>
      .error (.malformed ("row " ++ toString index ++ " has " ++ toString length ++
        " values, expected " ++ toString columns.length))
  | none => .ok ⟨columns, rows, metadata⟩

theorem malformed_of_merge {pages : List Page} {metadata : Metadata} {error : Error}
    (refused : merge pages metadata = .error error) : ∃ text, error = .malformed text := by
  unfold merge at refused
  dsimp only at refused
  split at refused
  · cases refused
    exact ⟨_, rfl⟩
  · cases refused

theorem metadata_of_merge {pages : List Page} {metadata : Metadata} {result : Result}
    (merged : merge pages metadata = .ok result) : result.metadata = metadata := by
  unfold merge at merged
  dsimp only at merged
  split at merged
  · cases merged
  · cases merged
    rfl

end AthenaModels.Page
