import AthenaModels.Json.Basic
import AthenaModels.Source.Basic
import AthenaModels.Timestamp

namespace AthenaModels

inductive QueryState where
  | queued
  | running
  | succeeded
  | failed
  | cancelled
deriving DecidableEq, Repr

namespace QueryState

def name : QueryState → String
  | .queued => "QUEUED"
  | .running => "RUNNING"
  | .succeeded => "SUCCEEDED"
  | .failed => "FAILED"
  | .cancelled => "CANCELLED"

def all : List QueryState := [.queued, .running, .succeeded, .failed, .cancelled]

def ofName? (name : String) : Option QueryState :=
  all.find? (·.name = name)

def isTerminal : QueryState → Bool
  | .queued | .running => false
  | _ => true

def read? {V : Type} [Source V] (value : V) : Option QueryState := do
  ofName? (← Source.choice? value)

def toJson (state : QueryState) : Json := .string state.name

end QueryState

structure QueryRequest where
  sql : String
  /-- The data catalog. -/
  catalog : String
  /-- The schema inside the catalog. -/
  database : String
  outputLocation : String
  workGroup : Option String
deriving DecidableEq, Repr

structure QueryStatus where
  state : QueryState
  reason : Option String
  bytesScanned : Nat
  milliseconds : Nat
  outputLocation : Option String
deriving DecidableEq, Repr

structure Column where
  name : String
  type : String
deriving DecidableEq, Repr

abbrev Row := List (Option String)

structure Page where
  columns : List Column
  rows : List Row
  updateCount : Option Int
  nextToken : Option String
deriving DecidableEq, Repr

structure Metadata where
  queryId : String
  bytesScanned : Nat
  milliseconds : Nat
  state : QueryState
  outputLocation : Option String
  /-- The number of submissions up to this one. -/
  attempts : Nat
  submittedAt : Timestamp
deriving DecidableEq, Repr

structure Result where
  columns : List Column
  rows : List Row
  metadata : Metadata
deriving DecidableEq, Repr

def Timestamp.read? {V : Type} [Source V] (value : V) : Option Timestamp := do
  ofText? (← Source.text? value)

namespace Column

def read? {V : Type} [Source V] (value : V) : Option Column := do
  let members ← Source.members? value
  members.fits 2
  some {
    name := ← members.required 0 ["name"] Source.text?
    type := ← members.required 1 ["data_type"] Source.text? }

def toJson (column : Column) : Json :=
  .ofMembers [("name", .string column.name), ("data_type", .string column.type)]

end Column

namespace Metadata

def read? {V : Type} [Source V] (value : V) : Option Metadata := do
  let members ← Source.members? value
  members.fits 7
  some {
    queryId := ← members.required 0 ["query_id"] Source.text?
    bytesScanned := ← members.required 1 ["bytes_scanned"] (Source.below? (Nat.pow 2 64))
    milliseconds := ← members.required 2 ["execution_time_ms"] (Source.below? (Nat.pow 2 64))
    state := ← members.required 3 ["state"] QueryState.read?
    outputLocation := ← members.nullable 4 ["output_location"] Source.text?
    attempts := ← members.required 5 ["attempts"] (Source.below? (Nat.pow 2 32))
    submittedAt := ← members.required 6 ["submitted_at"] Timestamp.read? }

def members (m : Metadata) : List (String × Json) :=
  [("query_id", .string m.queryId), ("bytes_scanned", .natural m.bytesScanned),
    ("execution_time_ms", .natural m.milliseconds), ("state", m.state.toJson),
    ("output_location", .ofOption .string m.outputLocation), ("attempts", .natural m.attempts)]

def toJson (m : Metadata) : Json :=
  .ofMembers (m.members ++ [("submitted_at", .string m.submittedAt.toText)])

end Metadata

namespace Result

def readRow? {V : Type} [Source V] : V → Option Row :=
  Source.list? (Source.option? Source.text?)

def read? {V : Type} [Source V] (value : V) : Option Result := do
  let members ← Source.members? value
  members.fits 3
  some {
    columns := ← members.required 0 ["columns"] (Source.list? Column.read?)
    rows := ← members.required 1 ["rows"] (Source.list? readRow?)
    metadata := ← members.required 2 ["metadata"] Metadata.read? }

def rowToJson (row : Row) : Json := .array (row.map (.ofOption .string))

def toJson (result : Result) : Json :=
  .ofMembers [("columns", .array (result.columns.map Column.toJson)),
    ("rows", .array (result.rows.map rowToJson)), ("metadata", result.metadata.toJson)]

end Result
end AthenaModels
