import AthenaModels.Chunk
import AthenaModels.Fallible
import AthenaModels.Model
import AthenaModels.Query.Result
import AthenaModels.Sql.Statement
import AthenaModels.Table.Creation
import AthenaModels.Text.Quoted

/-! Running models. The rows go to a staging table first; what it holds decides which partitions
are replaced, and from it they go to their table. -/

namespace AthenaModels

namespace Materialization

/-- What a run asks for: calls of its client, deletions in the store, and fresh names. -/
inductive Request where
  | query (sql : String)
  | statement (sql : String)
  /-- A statement that fills a location, which is emptied before each attempt. -/
  | fill (sql location : String)
  | deleteObjects (uris : List String)
  | deletePrefix (location : String)
  | freshSuffix
  | freshUuid
deriving DecidableEq, Repr

abbrev Reply : Request → Type
  | .query _ => Except Error Result
  | .statement _ => Except Error Metadata
  | .fill _ _ => Except Error Metadata
  | .deleteObjects _ => Except Error Nat
  | .deletePrefix _ => Except Error Nat
  | .freshSuffix => String
  | .freshUuid => String

abbrev service : Service := ⟨Request, Reply⟩

end Materialization

abbrev Materialization (α : Type) := Fallible Materialization.service α

namespace Materialization

def ask (r : Request) : Program service (Reply r) := Program.request (S := service) r

def query (sql : String) : Materialization Result := .mk (ask (.query sql))

def statement (sql : String) : Materialization Metadata := .mk (ask (.statement sql))

def fill (sql location : String) : Materialization Metadata := .mk (ask (.fill sql location))

def deleteObjects (uris : List String) : Materialization Nat := .mk (ask (.deleteObjects uris))

def deletePrefix (location : String) : Materialization Nat := .mk (ask (.deletePrefix location))

def freshSuffix : Materialization String := .lift (ask .freshSuffix)

def freshUuid : Materialization String := .lift (ask .freshUuid)

def texts? (column : String) (result : Result) : Option (List String) :=
  (result.columnValues? column).map (·.filterMap id)

def partitions? (keys : List String) (result : Result) : Option (List Partition) :=
  (result.distinctTuples? keys).map fun tuples =>
    Ascending.ofList (tuples.map (Partition.ofRow keys))

/-- What is read off a query's result; an error when the result has not got it. -/
def reading {α : Type} (sql : String) (read? : Result → Option α) (missing : String) :
    Materialization α := do
  match read? (← query sql) with
  | some value => return value
  | none => throw (.malformed missing)

def relationExists (relation : Relation) : Materialization Bool := do
  return !(← query (Sql.tableExists relation)).rows.isEmpty

def textsOf (column sql : String) : Materialization (List String) :=
  reading sql (texts? column) (column ++ " missing from result")

def targetColumns (target : Relation) : Materialization (List String) := do
  let columns ← textsOf "column_name" (Sql.columns target)
  if columns.isEmpty then throw (.malformed ("no columns found for " ++ target.display))
  return columns

def partitionsFrom (sql : String) (keys : List String) : Materialization (List Partition) :=
  reading sql (partitions? keys)
    ("partition columns " ++ Text.quotedList keys ++ " missing from result")

def dataFiles (sql : String) : Materialization (List String) :=
  textsOf "$path" sql

/-- Drops partitions and deletes their files. The files are looked up before, for they cannot be
found by their partition any more when it is gone. -/
def dropPartitions (target : Relation) (partitions : List Partition) : Materialization Nat := do
  let chunks := Chunk.ofList Plan.maxPartitions partitions
  let files ← chunks.mapM fun chunk => dataFiles (Sql.filePaths target chunk)
  chunks.forM fun chunk => do
    let _ ← statement (Sql.dropPartitions target chunk)
  if files.flatten.isEmpty then return 0 else deleteObjects files.flatten

/-- Makes room for the rows of a staging table: the plan, and how many files were deleted. -/
def makeRoom (model : Model) (strategy : Strategy) (staging : Relation) :
    Materialization (Plan × Nat) := do
  let target := model.relation
  if model.table.isPartitioned then
    let keys := model.table.partitionedBy
    let incoming ← partitionsFrom (Sql.distinctPartitions staging keys) keys
    let existing ← partitionsFrom (Sql.existingPartitions target) keys
    let plan := Plan.make strategy existing incoming
    if plan.replaced.isEmpty then return (plan, 0)
    return (plan, ← dropPartitions target plan.replaced)
  else
    match strategy with
    | .append => return (.empty, 0)
    | .insertOverwrite =>
        return (.empty, ← deleteObjects (← dataFiles (Sql.filePaths target [])))

def writeFromStaging (model : Model) (strategy : Strategy) (staging : Relation) :
    Materialization Summary := do
  let columns ← targetColumns model.relation
  let (plan, deleted) ← makeRoom model strategy staging
  let _ ← statement (Sql.insert model.relation staging columns)
  return ⟨model.relation, strategy, false, plan, deleted⟩

/-- Drops a staging table and its files; whether that succeeds does not matter. -/
def dropStaging (staging : Relation) (location : String) : Materialization Unit := do
  let _ ← (statement (Sql.dropTable staging)).outcome
  let _ ← (deletePrefix location).outcome

def locate (profile : Profile) (table : TableConfig) : Materialization String := do
  match table.location with
  | some location => return location
  | none => return table.resolveLocation profile (← freshUuid)

def createTarget (profile : Profile) (model : Model) (strategy : Strategy) :
    Materialization Summary := do
  let location ← locate profile model.table
  let creation ← Fallible.ofConfig (model.table.creation model.relation model.sql location)
  let _ ← fill creation location
  return ⟨model.relation, strategy, true, .empty, 0⟩

def stagingLocation (profile : Profile) (staging : Relation) : String :=
  Location.join profile.stagingDir ("tmp/" ++ staging.identifier)

def writeByStaging (model : Model) (strategy : Strategy) (staging : Relation)
    (creation location : String) : Materialization Summary := do
  let _ ← fill creation location
  writeFromStaging model strategy staging

/-- Adds to the table of a model by way of a staging table, which is dropped in the end. -/
def updateTarget (profile : Profile) (model : Model) (strategy : Strategy) :
    Materialization Summary := do
  let staging := model.relation.staging (← freshSuffix)
  let location := stagingLocation profile staging
  let creation ←
    Fallible.ofConfig ((TableConfig.staging location).creation staging model.sql location)
  let outcome ← (writeByStaging model strategy staging creation location).outcome
  dropStaging staging location
  Fallible.ofExcept outcome

/-- Runs a model. Settings that cannot be right are refused before anything is submitted. -/
def run (profile : Profile) (model : Model) : Materialization Summary := do
  let strategy ← Fallible.ofConfig model.incremental.validate
  Fallible.ofConfig model.table.validate
  if ← relationExists model.relation then updateTarget profile model strategy
  else createTarget profile model strategy

end Materialization
end AthenaModels
