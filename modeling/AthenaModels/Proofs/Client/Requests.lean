import AthenaModels.Client.Materialization
import AthenaModels.Proofs.Client.Loops

namespace AthenaModels.Client

open Fallible Warehouse

variable (c : Client)

/-- The requests while a query is looked after: nothing is submitted, and nothing is deleted. -/
def Attends : Warehouse.Request → Prop
  | .start _ | .deleteObjects _ | .deletePrefix _ | .freshSuffix | .freshUuid => False
  | _ => True

/-- The requests of an attempt at a statement: no other statement is submitted, and nothing is
deleted. -/
def Attempts (sql : String) : Warehouse.Request → Prop
  | .start query => query = c.requestFor sql
  | .deleteObjects _ | .deletePrefix _ | .freshSuffix | .freshUuid => False
  | _ => True

def Serves : Materialization.Request → Warehouse.Request → Prop
  | .query sql, r => c.Attempts sql r
  | .statement sql, r => c.Attempts sql r
  | .fill sql location, r => c.Attempts sql r ∨ r = .deletePrefix location
  | .deleteObjects uris, r => r = .deleteObjects uris
  | .deletePrefix location, r => r = .deletePrefix location
  | .freshSuffix, r => r = .freshSuffix
  | .freshUuid, r => r = .freshUuid

variable {sql : String}

theorem attempts_of_attends {request : Warehouse.Request} (attends : Attends request) :
    c.Attempts sql request := by
  cases request with
  | start => cases attends
  | _ => exact attends

theorem ask_makes {allowed : Warehouse.Request → Prop} {request : Warehouse.Request}
    (permitted : allowed request) : (Work.ask request).Makes allowed :=
  ⟨permitted, fun _ => trivial⟩

theorem lift_makes {allowed : Warehouse.Request → Prop} {request : Warehouse.Request}
    (permitted : allowed request) :
    (ExceptT.lift (Work.ask request) : Work (Reply request)).run.Makes allowed :=
  Program.makes_bind (ask_makes permitted) fun _ => trivial

theorem attends_of_idles {id : String} {request : Warehouse.Request} (idles : Idles id request) :
    Attends request := by
  cases request with
  | clock | sleep | stop => trivial
  | _ => cases idles

theorem poll_makes (id : String) : (c.poll id).run.Makes Attends := by
  have keeps : (c.poll id).run.Keeps (.ofPast fun _ => Attends) (fun _ _ => True) [] := by
    refine c.poll_keeps_of (fun _ _ => True) ?_ ?_ (fun _ _ _ => trivial) trivial
    · intro _ request _ idles _
      exact ⟨attends_of_idles idles, fun _ _ _ => trivial⟩
    · intro _ _ _
      refine ⟨trivial, fun reply _ _ => ?_⟩
      cases reply with
      | error =>
          exact c.looked_error _ (fun _ => trivial) (fun _ _ => trivial) fun _ _ => trivial
      | ok status =>
          simp only [Looked]
          cases status.state <;> trivial
  exact keeps.makes fun _ _ attends => attends

theorem pagesFrom_makes (id : String) (patience : Nat) (token : Option String) :
    (pagesFrom id patience token).run.Makes Attends := by
  induction patience generalizing token with
  | zero => trivial
  | succ patience ih =>
      refine makes_bind (ask_makes trivial) fun page => ?_
      split
      · exact makes_pure
      · exact makes_bind (ih _) fun _ => makes_pure

theorem fetch_makes (metadata : Metadata) : (c.fetch metadata).run.Makes Attends :=
  makes_bind (pagesFrom_makes _ _ _) fun _ => makes_ofExcept

def attend (withRows : Bool) (number : Nat) (submittedAt : Timestamp) (id : String) :
    Work Result := do
  let status ← c.poll id
  let metadata := metadataOf id status number submittedAt
  if withRows then c.fetch metadata else return ⟨[], [], metadata⟩

theorem attempt_eq (withRows : Bool) (number : Nat) :
    c.attempt sql withRows number = (do
      let submittedAt ← Work.now
      let id ← Work.start (c.requestFor sql)
      c.attend withRows number submittedAt id) := rfl

theorem attend_makes (withRows : Bool) (number : Nat) (submittedAt : Timestamp) (id : String) :
    (c.attend withRows number submittedAt id).run.Makes Attends := by
  refine makes_bind (c.poll_makes id) fun status => ?_
  cases withRows with
  | false => exact makes_pure
  | true => exact c.fetch_makes _

theorem attempt_makes (withRows : Bool) (number : Nat) :
    (c.attempt sql withRows number).run.Makes (c.Attempts sql) := by
  refine makes_bind (lift_makes trivial) fun submittedAt => ?_
  refine makes_bind (ask_makes rfl) fun id => ?_
  exact (c.attend_makes withRows number submittedAt id).mono fun _ => c.attempts_of_attends

def CallAttempts (sql : String) : Call.Request → Prop
  | .own r => c.Attempts sql r
  | .prepare => True

theorem own_makes {α : Type} {work : Work α} (makes : work.run.Makes (c.Attempts sql)) :
    (Call.own work).run.Makes (c.CallAttempts sql) :=
  makes.translate fun _ allowed => ⟨allowed, fun _ => trivial⟩

theorem prepare_makes : Call.prepare.run.Makes (c.CallAttempts sql) := ⟨trivial, fun _ => trivial⟩

theorem attemptThen_makes (withRows : Bool) (number : Nat) {again : Error → Call Result}
    (next : ∀ error, (again error).run.Makes (c.CallAttempts sql)) :
    (c.attemptThen sql withRows number again).run.Makes (c.CallAttempts sql) := by
  have attempted : (c.attempt sql withRows number).run.Makes (c.Attempts sql) :=
    c.attempt_makes withRows number
  refine makes_bind c.prepare_makes fun _ => ?_
  refine makes_bind (makes_outcome (c.own_makes attempted)) fun outcome => ?_
  cases outcome with
  | ok => exact makes_pure
  | error error =>
      by_cases retryable : error.isRetryable = true
      · simp only [if_pos retryable]
        exact next error
      · simp only [if_neg retryable]
        exact makes_throw

theorem attemptsFrom_makes (withRows : Bool) (number more : Nat) :
    (c.attemptsFrom sql withRows number more).run.Makes (c.CallAttempts sql) := by
  induction more generalizing number with
  | zero => exact c.attemptThen_makes withRows number fun _ => makes_throw
  | succ more ih =>
      refine c.attemptThen_makes withRows number fun _ => ?_
      exact makes_bind (c.own_makes (lift_makes trivial)) fun _ => ih (number + 1)

theorem statementCall_makes : (c.statementCall sql).run.Makes (c.CallAttempts sql) :=
  makes_bind (c.attemptsFrom_makes false _ _) fun _ => makes_pure

theorem prepared_makes {α : Type} {call : Call α} {preparation : Work Unit}
    {allowed : Warehouse.Request → Prop} (makes : call.run.Makes (c.CallAttempts sql))
    (attempts : ∀ request, c.Attempts sql request → allowed request)
    (prepares : preparation.run.Makes allowed) : (call.prepared preparation).run.Makes allowed := by
  apply makes.translate
  intro request permitted
  cases request with
  | own r => exact ⟨attempts r permitted, fun _ => trivial⟩
  | prepare => exact prepares

theorem carryOut_makes (request : Materialization.Request) :
    (c.carryOut request).Makes (c.Serves request) := by
  cases request with
  | query sql => exact c.prepared_makes (c.attemptsFrom_makes true _ _) (fun _ => id) trivial
  | statement sql => exact c.prepared_makes c.statementCall_makes (fun _ => id) trivial
  | fill sql location =>
      refine c.prepared_makes c.statementCall_makes (fun _ => .inl) ?_
      exact makes_bind ⟨.inr rfl, fun _ => trivial⟩ fun _ => makes_pure
  | deleteObjects uris => exact ⟨rfl, fun _ => trivial⟩
  | deletePrefix location => exact ⟨rfl, fun _ => trivial⟩
  | freshSuffix => exact ⟨rfl, fun _ => trivial⟩
  | freshUuid => exact ⟨rfl, fun _ => trivial⟩

end AthenaModels.Client
