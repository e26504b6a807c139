import AthenaModels.Proofs.Client.Call
import AthenaModels.Proofs.Client.Loops

namespace AthenaModels

namespace Warehouse

def started (query : QueryRequest) (reply : Except Error String) : service.Event :=
  ⟨.start query, reply⟩

def checked (id : String) (reply : Except Error QueryStatus) : service.Event :=
  ⟨.status id, reply⟩

def checkOf? (id : String) : service.Event → Option (Except Error QueryStatus)
  | ⟨.status looked, reply⟩ => if looked = id then some reply else none
  | _ => none

def lastCheck? (id : String) (trace : List service.Event) : Option (Except Error QueryStatus) :=
  (trace.filterMap (checkOf? id)).getLast?

def IsOver (complete : QueryState → Prop) (trace : List service.Event) (id : String) : Prop :=
  ∃ status, lastCheck? id trace = some (.ok status) ∧ complete status.state

def Settled (complete : QueryState → Prop) (trace : List service.Event) : Prop :=
  ∀ query id, started query (.ok id) ∈ trace → IsOver complete trace id

def SettledBut (complete : QueryState → Prop) (current : String) (trace : List service.Event) :
    Prop :=
  ∀ query id, started query (.ok id) ∈ trace → id ≠ current → IsOver complete trace id

def Concerns (current : String) (event : service.Event) : Prop :=
  (∀ query reply, event ≠ started query reply) ∧ ∀ id, id ≠ current → checkOf? id event = none

variable {complete : QueryState → Prop} {current : String} {trace : List service.Event}

theorem IsOver.append {id : String} {event : service.Event} (isOver : IsOver complete trace id)
    (other : checkOf? id event = none) : IsOver complete (trace ++ [event]) id := by
  obtain ⟨status, last, reached⟩ := isOver
  refine ⟨status, ?_, reached⟩
  rw [← last]
  simp [lastCheck?, List.filterMap_append, other]

theorem lastCheck?_append_checked (id : String) (reply : Except Error QueryStatus) :
    lastCheck? id (trace ++ [checked id reply]) = some reply := by
  simp [lastCheck?, List.filterMap_append, checkOf?, checked]

theorem SettledBut.append {event : service.Event} (settled : SettledBut complete current trace)
    (concerns : Concerns current event) : SettledBut complete current (trace ++ [event]) := by
  intro query id member different
  rcases List.mem_append.mp member with before | last
  · exact (settled query id before different).append (concerns.2 id different)
  · exact absurd (List.mem_singleton.mp last).symm (concerns.1 query (.ok id))

theorem SettledBut.settled (settled : SettledBut complete current trace)
    (isOver : IsOver complete trace current) : Settled complete trace := by
  intro query id member
  by_cases same : id = current
  · subst same
    exact isOver
  · exact settled query id member same

theorem Settled.started_ok {query : QueryRequest} {id : String} (settled : Settled complete trace) :
    SettledBut complete id (trace ++ [started query (.ok id)]) := by
  intro other id' member different
  rcases List.mem_append.mp member with before | last
  · exact (settled other id' before).append rfl
  · have same : started other (.ok id') = started query (.ok id) := List.mem_singleton.mp last
    cases same
    exact absurd rfl different

theorem Settled.append (settled : Settled complete trace) (event : service.Event)
    (unstarted : ∀ query id, event ≠ started query (.ok id))
    (unseen : ∀ id, checkOf? id event = none) : Settled complete (trace ++ [event]) := by
  intro query id member
  rcases List.mem_append.mp member with before | last
  · exact (settled query id before).append (unseen id)
  · exact absurd (List.mem_singleton.mp last).symm (unstarted query id)

theorem concerns_checked (id : String) (reply : Except Error QueryStatus) :
    Concerns id (checked id reply) := by
  refine ⟨nofun, ?_⟩
  intro other different
  exact if_neg (Ne.symm different)

/-- Whenever a statement was submitted, the queries of all earlier submissions were found over. -/
def SubmitsWhenOver (complete : QueryState → Prop) (trace : List service.Event) : Prop :=
  ∀ before query reply after, trace = before ++ started query reply :: after →
    Settled complete before

def submitting (complete : QueryState → Prop) : Protocol service (List service.Event) :=
  .ofPast fun past request => ∀ query, request = .start query → Settled complete past

end Warehouse

namespace Client

open Warehouse

variable {complete : QueryState → Prop} {past : List service.Event}

theorem settled_nil : Settled complete [] := by
  intro query id member
  cases member

theorem concerns_of_idles {id : String} {request : Request} (idles : Idles id request)
    (reply : Reply request) : Concerns id ⟨request, reply⟩ := by
  cases request with
  | clock | sleep | stop => exact ⟨nofun, fun _ _ => rfl⟩
  | _ => cases idles

/-- A query was found to have succeeded, or the error lets nothing be submitted that could run
beside it. -/
def afterPoll (complete : QueryState → Prop) (id : String) :
    List service.Event → Except Error QueryStatus → Prop :=
  Fallible.ends
    (fun past status => SettledBut complete id past ∧
      lastCheck? id past = some (.ok status) ∧ status.state = .succeeded)
    (fun past error => error.isRetryable = true → Settled complete past)

theorem poll_keeps (c : Client) (id : String) (failed : complete .failed)
    (settled : SettledBut complete id past) :
    (c.poll id).run.Keeps (submitting complete) (afterPoll complete id) past := by
  refine c.poll_keeps_of (fun _ past => SettledBut complete id past) ?_ ?_ ?_ settled
  · intro _ request past idles settled
    refine ⟨?_, ?_⟩
    · rintro query rfl
      cases idles
    · rintro reply _ rfl
      exact settled.append (concerns_of_idles idles reply)
  · intro _ past settled
    refine ⟨?_, ?_⟩
    · rintro _ ⟨⟩
    · rintro reply _ rfl
      have looked := settled.append (concerns_checked id reply)
      cases reply with
      | error error =>
          refine c.looked_error _ ?_ ?_ fun _ _ => looked
          · intro final retried
            cases final.symm.trans retried
          · -- A look that fails once too often ends in an error that is never tried again.
            rintro _ _ ⟨⟩
      | ok status =>
          have last : lastCheck? id (past ++ [checked id (.ok status)]) = some (.ok status) :=
            lastCheck?_append_checked id (.ok status)
          simp only [Looked]
          cases state : status.state with
          | succeeded => exact ⟨looked, last, state⟩
          | failed =>
              intro _
              exact looked.settled ⟨status, last, by rwa [state]⟩
          | cancelled => rintro ⟨⟩
          | queued | running => exact looked
  · rintro _ limit _ ⟨⟩

theorem fetch_keeps (c : Client) (metadata : Metadata) (settled : Settled complete past) :
    (c.fetch metadata).run.Keeps (submitting complete)
      (Fallible.ends (fun past _ => Settled complete past) (fun past _ => Settled complete past))
      past := by
  have reads : ∀ token past, Settled complete past →
      (∀ query, Request.page metadata.queryId token = .start query → Settled complete past) ∧
        ∀ reply later, later = past ++ [⟨.page metadata.queryId token, reply⟩] →
          Fallible.ends (fun later _ => Settled complete later)
            (fun later _ => Settled complete later) later reply := by
    intro token past settled
    refine ⟨fun _ _ => settled, ?_⟩
    rintro reply _ rfl
    have read := settled.append ⟨.page metadata.queryId token, reply⟩ nofun (fun _ => rfl)
    cases reply with
    | error => exact read
    | ok => exact read
  apply Fallible.keeps_bind_of (pagesFrom_keeps_of (Settled complete) reads settled)
    (fun _ _ settled => settled)
  intro past pages settled
  apply Fallible.keeps_ofExcept.mpr
  cases Page.merge pages metadata with
  | error => exact settled
  | ok => exact settled

/-- An attempt submits when all earlier queries are over, and if it may be repeated, they are over
then. -/
theorem attempt_keeps (c : Client) (sql : String) (withRows : Bool) (number : Nat)
    (failed : complete .failed) (succeeded : withRows = true → complete .succeeded)
    (settled : Settled complete past) :
    (c.attempt sql withRows number).run.Keeps (submitting complete)
      (Fallible.ends (fun _ _ => True)
        (fun past error => error.isRetryable = true → Settled complete past)) past := by
  refine Fallible.keeps_bind.mpr (Fallible.keeps_lift.mpr
    (Program.keeps_request_ofPast.mpr ⟨fun _ _ => settled, ?_⟩))
  intro submittedAt
  have dated := settled.append ⟨.now, submittedAt⟩ nofun (fun _ => rfl)
  refine Fallible.keeps_bind.mpr (Program.keeps_request_ofPast.mpr ⟨fun _ _ => dated, ?_⟩)
  intro reply
  cases reply with
  | error error => exact fun _ => dated.append _ (fun _ _ same => by cases same) (fun _ => rfl)
  | ok id =>
      apply Fallible.keeps_bind_of (c.poll_keeps id failed dated.started_ok)
        (fun _ _ settled => settled)
      intro past status polled
      obtain ⟨settledBut, last, state⟩ := polled
      cases withRows with
      | false => trivial
      | true =>
          have settled := settledBut.settled ⟨status, last, by rw [state]; exact succeeded rfl⟩
          exact Fallible.keeps_of_ends (c.fetch_keeps _ settled) (fun _ _ settled _ => settled)
            fun _ _ _ => trivial

theorem attempts_keep (c : Client) (complete : QueryState → Prop) (sql : String)
    (withRows : Bool) (failed : complete .failed)
    (succeeded : withRows = true → complete .succeeded) :
    (c.attempts sql withRows).run.Keeps (Call.protocol (submitting complete) Eq)
      (fun _ _ => True) [] := by
  refine c.attemptsFrom_keeps_of (Settled complete) ?_ ?_ ?_ (fun _ _ _ _ => trivial) settled_nil
  · intro past settled
    apply Call.keeps_prepare
    rintro _ reply rfl
    cases reply with
    | error => trivial
    | ok => exact settled
  · intro number past settled
    apply Call.keeps_own
    apply (c.attempt_keeps sql withRows number failed succeeded settled).mono
    intro later outcome kept
    refine ⟨trivial, ?_⟩
    rintro error rfl retryable
    exact kept retryable
  · intro past settled
    apply Call.keeps_own
    refine Fallible.keeps_lift.mpr (Program.keeps_request_ofPast.mpr ⟨fun _ _ => settled, ?_⟩)
    intro slept
    exact settled.append _ nofun (fun _ => rfl)

theorem submitsWhenOver_of_keeps {α : Type} {call reached : Program Call.service α}
    {post : List service.Event → α → Prop} {events : List Call.service.Event}
    (keeps : call.Keeps (Call.protocol (submitting complete) Eq) post [])
    (ran : call.Runs events reached) : SubmitsWhenOver complete (Call.ownEvents events) := by
  intro before query reply after own
  obtain ⟨earlier, later, rfl, rfl⟩ := Call.exists_of_ownEvents_eq_append own
  have steps := Call.steps_ownEvents (submitting complete).allowed [] earlier
  exact keeps.allowed ran steps query rfl

theorem statementCall_keeps (c : Client) (sql : String) :
    (c.statementCall sql).run.Keeps (Call.protocol (submitting (· = .failed)) Eq) (fun _ _ => True)
      [] := by
  apply Fallible.keeps_bind.mpr
  apply (c.attempts_keep (· = .failed) sql false rfl nofun).mono
  intro past outcome _
  cases outcome <;> trivial

/-- A client submits a statement again only when the query of every earlier submission, if there was
one, was found over: failed, or succeeded with a result that could not be read. The preparation of a
statement may do anything; its own requests do not count among those of the call. -/
theorem submits_when_over (c : Client) (sql : String) :
    (∀ trace rest, (c.execute sql).run.Runs trace rest →
      SubmitsWhenOver (fun state => state = .failed ∨ state = .succeeded) trace) ∧
    (∀ trace rest, (c.executeStatement sql).run.Runs trace rest →
      SubmitsWhenOver (· = .failed) trace) ∧
    ∀ preparation trace rest, (c.executePrepared preparation sql).run.Runs trace rest →
      ∃ events reached,
        Program.Account (Call.carryOut preparation) (c.statementCall sql).run events reached trace
            rest ∧
          SubmitsWhenOver (· = .failed) (Call.ownEvents events) := by
  have prepared : ∀ preparation trace rest,
      (c.executePrepared preparation sql).run.Runs trace rest →
      ∃ events reached,
        Program.Account (Call.carryOut preparation) (c.statementCall sql).run events reached trace
            rest ∧
          SubmitsWhenOver (· = .failed) (Call.ownEvents events) := by
    intro preparation trace rest ran
    obtain ⟨events, reached, account⟩ := ran.account
    have submits := submitsWhenOver_of_keeps (c.statementCall_keeps sql) account.ran
    exact ⟨events, reached, account, submits⟩
  refine ⟨?_, ?_, prepared⟩
  · intro trace rest ran
    obtain ⟨events, reached, account⟩ := ran.account
    rw [Call.account_unprepared account]
    have keeps := c.attempts_keep (fun state => state = .failed ∨ state = .succeeded) sql true
      (.inl rfl) fun _ => .inr rfl
    exact submitsWhenOver_of_keeps keeps account.ran
  · intro trace rest ran
    obtain ⟨events, reached, account, submits⟩ := prepared (pure ()) trace rest ran
    rwa [Call.account_unprepared account]

/-- Answers of a warehouse where the first query fails, and any later one has a result that cannot
be read. -/
def failingAnswers : (r : Request) → Nat → Reply r × Nat
  | .start _, count => (.ok (if count = 0 then "first" else "later"), count + 1)
  | .status _, count => (.ok ⟨if count = 1 then .failed else .succeeded, none, 0, 0, none⟩, count)
  | .page _ _, count => (.error (.service "throttled"), count)
  | .stop _, count => (.ok (), count)
  | .deleteObjects _, count => (.ok 0, count)
  | .deletePrefix _, count => (.ok 0, count)
  | .sleep _, count => ((), count)
  | .clock, count => ((0 : Nat), count)
  | .now, count => ((⟨0, 0⟩ : Timestamp), count)
  | .freshSuffix, count => ("suffix", count)
  | .freshUuid, count => ("uuid", count)

def starts (trace : List service.Event) : Nat :=
  trace.countP fun event => event.request matches .start _

/-- A query is submitted three times and a prepared statement twice. -/
theorem submits_when_over_repeatedly :
    let c : Client := ⟨{ Profile.ofRequired "s3://b/" "r" "s" "d" with retries := 2 }, 1⟩
    let preparation : Work Unit := do let _ ← Work.deletePrefix "s3://b/tmp/"
    let query := (c.execute "SELECT 1").run.play failingAnswers 0
    let statement := (c.executeStatement "SELECT 1").run.play failingAnswers 0
    let prepared := (c.executePrepared preparation "SELECT 1").run.play failingAnswers 0
    starts query.1 = 3 ∧ starts statement.1 = 2 ∧ starts prepared.1 = 2 ∧
      SubmitsWhenOver (fun state => state = .failed ∨ state = .succeeded) query.1 ∧
      SubmitsWhenOver (· = .failed) statement.1 ∧
      ∃ events reached,
        Program.Account (Call.carryOut preparation) (c.statementCall "SELECT 1").run events reached
            prepared.1 prepared.2 ∧
          SubmitsWhenOver (· = .failed) (Call.ownEvents events) := by
  intro c preparation query statement prepared
  obtain ⟨forQueries, forStatements, forPrepared⟩ := c.submits_when_over "SELECT 1"
  refine ⟨by decide +kernel, by decide +kernel, by decide +kernel, ?_, ?_, ?_⟩
  · exact forQueries query.1 query.2 (Program.runs_play _ _ _)
  · exact forStatements statement.1 statement.2 (Program.runs_play _ _ _)
  · exact forPrepared preparation prepared.1 prepared.2 (Program.runs_play _ _ _)

end Client
end AthenaModels
