import AthenaModels.Client.Call
import AthenaModels.Profile.Basic
import AthenaModels.Query.Pages

/-! Running statements: submit, look until it is over, fetch, and try again where that may help. -/

namespace AthenaModels

structure Client where
  profile : Profile
  /-- How many looks at one query, and how many pages of one result, to wait for. -/
  patience : Nat

namespace Client

/-- Attempts at a query, and looks in a row that may fail. The number has 32 bits. -/
def maxAttempts (c : Client) : Nat := min (c.profile.retries + 1) (Nat.pow 2 32 - 1)

def pause (c : Client) : Work Unit := Work.sleep c.profile.pollInterval

def requestFor (c : Client) (sql : String) : QueryRequest where
  sql := sql
  catalog := c.profile.database
  database := c.profile.schema
  outputLocation := c.profile.stagingDir
  workGroup := c.profile.workGroup

/-- Stops a query that has been running for as long as it may. Whether that succeeds does not
matter. -/
def stopOverdue (c : Client) (id : String) (start : Nat) : Work Unit := do
  if let some limit := c.profile.timeout then
    if limit * Nat.pow 10 9 ≤ (← Work.clock) - start then
      let _ ← (Work.stop id).outcome
      throw (.queryTimeout id limit)

/-- Looks at a query until it is over; `failures` looks in a row have failed. -/
def pollFrom (c : Client) (id : String) (start : Nat) : Nat → Nat → Work QueryStatus
  | 0, _ => Fallible.exhausted
  | patience + 1, failures => do
      match ← (Work.status id).outcome with
      | .error error =>
          if !error.isRetryable then throw error
          else if c.maxAttempts ≤ failures + 1 then throw (.retriesExhausted (failures + 1) error)
          else
            c.pause
            pollFrom c id start patience (failures + 1)
      | .ok status =>
          match status.state with
          | .succeeded => return status
          | .failed => throw (.queryFailed id (status.reason.getD "unknown"))
          | .cancelled => throw (.queryCancelled id)
          | .queued | .running =>
              c.stopOverdue id start
              c.pause
              pollFrom c id start patience 0

def poll (c : Client) (id : String) : Work QueryStatus := do
  let start ← if c.profile.timeout.isSome then Work.clock else pure 0
  c.pollFrom id start c.patience 0

def pagesFrom (id : String) : Nat → Option String → Work (List Page)
  | 0, _ => Fallible.exhausted
  | patience + 1, token => do
      let page ← Work.page id token
      match page.nextToken with
      | none => return [page]
      | some token => return page :: (← pagesFrom id patience (some token))

def fetch (c : Client) (metadata : Metadata) : Work Result := do
  let pages ← pagesFrom metadata.queryId c.patience none
  Fallible.ofExcept (Page.merge pages metadata)

def metadataOf (id : String) (status : QueryStatus) (attempts : Nat) (submittedAt : Timestamp) :
    Metadata where
  queryId := id
  bytesScanned := status.bytesScanned
  milliseconds := status.milliseconds
  state := status.state
  outputLocation := status.outputLocation
  attempts := attempts
  submittedAt := submittedAt

def attempt (c : Client) (sql : String) (withRows : Bool) (number : Nat) : Work Result := do
  let submittedAt ← Work.now
  let id ← Work.start (c.requestFor sql)
  let status ← c.poll id
  let metadata := metadataOf id status number submittedAt
  if withRows then c.fetch metadata else return ⟨[], [], metadata⟩

/-- An attempt after the preparation, with what follows an error that can be retried. -/
def attemptThen (c : Client) (sql : String) (withRows : Bool) (number : Nat)
    (again : Error → Call Result) : Call Result := do
  Call.prepare
  match ← (Call.own (c.attempt sql withRows number)).outcome with
  | .ok result => return result
  | .error error => if error.isRetryable then again error else throw error

def attemptsFrom (c : Client) (sql : String) (withRows : Bool) : (number more : Nat) → Call Result
  | number, 0 =>
      c.attemptThen sql withRows number fun error => throw (.retriesExhausted number error)
  | number, more + 1 =>
      c.attemptThen sql withRows number fun _ => do
        Call.own c.pause
        attemptsFrom c sql withRows (number + 1) more

def attempts (c : Client) (sql : String) (withRows : Bool) : Call Result :=
  c.attemptsFrom sql withRows 1 (c.maxAttempts - 1)

def execute (c : Client) (sql : String) : Work Result :=
  (c.attempts sql true).prepared (pure ())

def statementCall (c : Client) (sql : String) : Call Metadata := do
  return (← c.attempts sql false).metadata

def executePrepared (c : Client) (preparation : Work Unit) (sql : String) : Work Metadata :=
  (c.statementCall sql).prepared preparation

def executeStatement (c : Client) (sql : String) : Work Metadata :=
  c.executePrepared (pure ()) sql

def cancel (id : String) : Work Unit := Work.stop id

def status (id : String) : Work Metadata := do
  let status ← Work.status id
  return metadataOf id status 1 (← Work.now)

end Client
end AthenaModels
