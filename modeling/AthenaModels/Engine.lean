import AthenaModels.Engine.Answer
import AthenaModels.Error
import AthenaModels.Json.Basic
import AthenaModels.Program
import AthenaModels.Query.Basic

/-! The query engine's interface: actions with a JSON body, answered by a status and a text. -/

namespace AthenaModels.Engine

structure Action where
  name : String
  body : Json

def service : Service := ⟨Action, fun _ => Answer⟩

abbrev Exchange (α : Type) := ExceptT Error (Program service) α

def perform (operation : Operation) (body : List (String × Json)) : Exchange Json.Written := do
  let answer ← liftM (Program.request (S := service) ⟨operation.name, .ofMembers body⟩)
  match operation.read answer with
  | .ok value => return value
  | .error refusal => throw (.service refusal.message)

def at? : Json.Written → List String → Option Json.Written
  | value, [] => some value
  | .object members, name :: path => do at? (← member? members name) path
  | _, _ :: _ => none

def textAt? (value : Json.Written) (path : List String) : Option String :=
  match at? value path with
  | some (.string chars) => Json.unescape? chars
  | _ => none

def integerAt? (value : Json.Written) (path : List String) : Option Int :=
  match at? value path with
  | some (.number digits) => Numeral.signed? 64 (String.ofList digits)
  | _ => none

def itemsAt (value : Json.Written) (path : List String) : List Json.Written :=
  match at? value path with
  | some (.array items) => items
  | _ => []

def optionalText (name : String) (text : Option String) : List (String × Json) :=
  (text.map fun text => (name, Json.string text)).toList

def start (query : QueryRequest) : Exchange String := do
  let context :=
    optionalText "Catalog" (some query.catalog |>.filter (· != "")) ++
      optionalText "Database" (some query.database |>.filter (· != ""))
  let body :=
    [("QueryString", Json.string query.sql), ("QueryExecutionContext", .ofMembers context),
      ("ResultConfiguration", .ofMembers [("OutputLocation", .string query.outputLocation)])] ++
      optionalText "WorkGroup" query.workGroup
  match textAt? (← perform .start body) ["QueryExecutionId"] with
  | some id => return id
  | none => throw (.service "No query execution ID returned")

/-- Numbers and states that are missing or unknown read as zero and as queued. -/
def readExecution (value : Json.Written) : QueryStatus :=
  let number path := ((integerAt? value path).getD 0).toNat
  { state := ((textAt? value ["Status", "State"]).bind QueryState.ofName?).getD .queued
    reason := textAt? value ["Status", "StateChangeReason"]
    bytesScanned := number ["Statistics", "DataScannedInBytes"]
    milliseconds := number ["Statistics", "EngineExecutionTimeInMillis"]
    outputLocation := textAt? value ["ResultConfiguration", "OutputLocation"] }

def execution (id : String) : Exchange QueryStatus := do
  let result ← perform .execution [("QueryExecutionId", .string id)]
  match at? result ["QueryExecution"] with
  | some value => return readExecution value
  | none => throw (.service "No query execution in response")

def readColumn (value : Json.Written) : Column :=
  ⟨(textAt? value ["Name"]).getD "", (textAt? value ["Type"]).getD ""⟩

def readRow (value : Json.Written) : Row :=
  (itemsAt value ["Data"]).map (textAt? · ["VarCharValue"])

def resultPage (id : String) (token : Option String) : Exchange Page := do
  let body := ("QueryExecutionId", Json.string id) :: optionalText "NextToken" token
  let result ← perform .results body
  match at? result ["ResultSet"] with
  | some value =>
      return {
        columns := (itemsAt value ["ResultSetMetadata", "ColumnInfo"]).map readColumn
        rows := (itemsAt value ["Rows"]).map readRow
        updateCount := integerAt? result ["UpdateCount"]
        nextToken := textAt? result ["NextToken"] }
  | none => throw (.malformed "No ResultSet in response")

def stop (id : String) : Exchange Unit :=
  discard (perform .stop [("QueryExecutionId", .string id)])

end AthenaModels.Engine
