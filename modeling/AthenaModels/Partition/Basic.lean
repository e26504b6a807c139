import AthenaModels.Ascending
import AthenaModels.Json.Basic
import AthenaModels.Source.Basic
import AthenaModels.Sql.Literal
import AthenaModels.Text.Basic

namespace AthenaModels

/-- The values of the partition columns, in the order of the columns. -/
structure Partition where
  pairs : List (String × Option String)
deriving DecidableEq, Repr

namespace Partition

/-- Pairs compare by column, then by value, with no value before any. -/
def comparePairs : (a b : String × Option String) → Ordering :=
  compareLex (compareOn Prod.fst) (compareOn Prod.snd)

instance : Ord Partition where
  compare a b := List.compareLex comparePairs a.pairs b.pairs

def ofRow (columns : List String) (values : List (Option String)) : Partition :=
  ⟨columns.zip values⟩

def nullMarker : String := "__HIVE_DEFAULT_PARTITION__"

def valueText (value : Option String) : String :=
  value.getD nullMarker

def spec (p : Partition) : String :=
  let parts := p.pairs.map fun (column, value) => column ++ "=" ++ Sql.literal (valueText value)
  "(" ++ ", ".intercalate parts ++ ")"

/-- The condition on a column; the cast makes one text fit columns of any type. -/
def condition : String × Option String → String
  | (column, some value) => "CAST(" ++ column ++ " AS varchar) = " ++ Sql.literal value
  | (column, none) => column ++ " IS NULL"

def predicate (p : Partition) : String :=
  if p.pairs.isEmpty then "TRUE" else " AND ".intercalate (p.pairs.map condition)

def readPair? {V : Type} [Source V] : V → Option (String × Option String) :=
  Source.pair? Source.text? (Source.option? Source.text?)

def read? {V : Type} [Source V] (value : V) : Option Partition := do
  some ⟨← Source.list? readPair? value⟩

def toJson (p : Partition) : Json :=
  .array (p.pairs.map fun (column, value) => .array [.string column, .ofOption .string value])

end Partition
end AthenaModels
