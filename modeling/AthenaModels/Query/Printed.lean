import AthenaModels.Number.Binary64
import AthenaModels.Query.Result
import AthenaModels.Text.Basic

namespace AthenaModels.Result

def cellText (value : Option String) : String := value.getD "NULL"

/-- A column is as wide as its longest text has bytes. -/
def widths (result : Result) : List Nat :=
  result.columns.zipIdx.map fun (column, index) =>
    let cells := result.rows.filterMap (·[index]?)
    cells.foldl (fun width value => max width (cellText value).utf8ByteSize)
      column.name.utf8ByteSize

/-- The text and spaces up to the width, which may be any: that a printer may refuse widths above
65535 is left out. -/
def padded (width : Nat) (text : String) : String :=
  text ++ String.ofList (List.replicate (width - text.length) ' ')

/-- The texts one beside the other, at most as many as there are widths. -/
def line (widths : List Nat) (texts : List String) : String :=
  " | ".intercalate (List.zipWith padded widths texts)

def ruler (widths : List Nat) : String :=
  "-+-".intercalate (widths.map fun width => String.ofList (List.replicate width '-'))

def nearest (bytes : Nat) : Binary64 := (Binary64.ofRat? bytes 1).getD ⟨0, 0⟩

def megabytes (bytes : Nat) : String :=
  let (num, den) := (nearest bytes).toRat
  Binary64.toFixed 3 num (den * Nat.pow 2 20)

/-- Five dollars for 2 ^ 40 bytes. -/
def cost (result : Result) : Binary64 :=
  let (num, den) := (nearest result.metadata.bytesScanned).toRat
  (Binary64.ofRat? (5 * num) (den * Nat.pow 2 40)).getD ⟨0, 0⟩

def costText (result : Result) : String :=
  let (num, den) := result.cost.toRat
  Binary64.toFixed 6 num den

def footer (result : Result) : String :=
  "Query " ++ result.metadata.queryId ++ " | " ++ toString result.rows.length ++ " rows | " ++
    megabytes result.metadata.bytesScanned ++ " MB scanned | " ++
    toString result.metadata.milliseconds ++ "ms | " ++ toString result.metadata.attempts ++
    " attempt(s) | $" ++ result.costText

def tableLines (result : Result) : List String :=
  let widths := result.widths
  line widths (result.columns.map (·.name)) :: ruler widths ::
    result.rows.map fun row => line widths (row.map cellText)

def printed (result : Result) : String :=
  if result.columns.isEmpty then "(empty result set)"
  else String.join (result.tableLines.map (· ++ "\n")) ++ "\n" ++ result.footer

end AthenaModels.Result
