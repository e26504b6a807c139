import AthenaModels.Proofs.Client.Attempt
import AthenaModels.Proofs.Program.Pending

namespace AthenaModels

open Trace

namespace Warehouse

def success? : service.Event → Option String
  | ⟨.status id, .ok status⟩ => if status.state = .succeeded then some id else none
  | _ => none

def refusesPage (id : String) : service.Event → Bool
  | ⟨.page asked _, .error error⟩ => asked == id && error.isRetryable
  | _ => false

/-- Whenever a statement was submitted, each query that had been found to have succeeded had an
excuse since. -/
def SubmitsExcused (excuses : String → service.Event → Bool) (trace : List service.Event) : Prop :=
  ∀ before query reply after, trace = before ++ started query reply :: after →
    pending success? excuses before = []

theorem success?_of_unfinished {id : String} {status : QueryStatus}
    (state : status.state.isTerminal = false) : success? (checked id (.ok status)) = none := by
  have other : status.state ≠ .succeeded := by
    intro succeeded
    rw [succeeded] at state
    cases state
  exact if_neg other

theorem success?_eq_none_of_ne {request : Request} {reply : Reply request}
    (unseen : ∀ id, request ≠ .status id) : success? ⟨request, reply⟩ = none := by
  cases request with
  | status id => exact absurd rfl (unseen id)
  | _ => rfl

end Warehouse

namespace Client

open Fallible Program Warehouse

variable {c : Client} {sql id : String} {start failures : Nat} {trace : List service.Event}
  {excuses : String → service.Event → Bool}

theorem InTime.success? (inTime : c.InTime start trace) : ∀ event ∈ trace, success? event = none := by
  cases inTime with
  | unlimited => simp
  | early => simp [Warehouse.success?]

/-- Only the query that is looked at is found to have succeeded, and then that is the outcome. -/
theorem Polled.success? {outcome : Except Error QueryStatus}
    (polled : c.Polled id start failures trace outcome) :
    ∀ event ∈ trace, ∀ other, success? event = some other →
      other = id ∧ ∃ status, outcome = .ok status := by
  induction polled with
  | succeeded state => simp [Warehouse.success?, checked, state]
  | failed state => simp [Warehouse.success?, checked, state]
  | cancelled state => simp [Warehouse.success?, checked, state]
  | overdue state =>
      simp [success?_of_unfinished state, success?_eq_none_of_ne]
  | refused => simp [Warehouse.success?, checked]
  | exhausted => simp [Warehouse.success?, checked]
  | again _ _ _ ih =>
      simpa [Warehouse.success?, checked] using ih
  | waiting state inTime _ ih =>
      intro event member other found
      simp only [List.cons_append, List.mem_cons, List.mem_append] at member
      rcases member with rfl | clock | rfl | later
      · rw [success?_of_unfinished state] at found
        cases found
      · rw [inTime.success? event clock] at found
        cases found
      · cases found
      · exact ih event later other found

theorem Polls.success? {outcome : Except Error QueryStatus} (polls : c.Polls id trace outcome) :
    ∀ event ∈ trace, ∀ other, success? event = some other →
      other = id ∧ ∃ status, outcome = .ok status := by
  cases polls with
  | unlimited _ polled => exact polled.success?
  | limited _ polled => simpa [Warehouse.success?] using polled.success?

theorem Paged.success? {token : Option String} {outcome : Except Error (List Page)}
    (paged : Paged id token trace outcome) : ∀ event ∈ trace, success? event = none := by
  induction paged with
  | refused => simp [Warehouse.success?]
  | last => simp [Warehouse.success?]
  | more _ _ ih => simpa [Warehouse.success?] using ih

theorem Paged.refusesPage {token : Option String} {outcome : Except Error (List Page)}
    {error : Error} (paged : Paged id token trace outcome) (failed : outcome = .error error)
    (retryable : error.isRetryable = true) : trace.any (refusesPage id) = true := by
  induction paged with
  | refused =>
      cases failed
      simp [Warehouse.refusesPage, retryable]
  | last => cases failed
  | @more _ _ _ _ outcome _ _ ih =>
      cases outcome with
      | ok => cases failed
      | error =>
          cases failed
          simp [ih rfl]

/-- When an attempt may be repeated after it has found a success, a page was refused. -/
theorem Attended.excused {withRows : Bool} {number : Nat} {submittedAt : Timestamp}
    {outcome : Except Error Result} {error : Error}
    (attended : c.Attended withRows number submittedAt id trace outcome)
    (failed : outcome = .error error) (retryable : error.isRetryable = true)
    (unread : withRows = true → excuses = refusesPage) : pending success? excuses trace = [] := by
  cases attended with
  | unsuccessful polls =>
      apply pending_eq_nil_of_forall
      intro event member
      apply Option.eq_none_iff_forall_ne_some.mpr
      intro other found
      obtain ⟨_, _, same⟩ := polls.success? event member other found
      cases same
  | executed => cases failed
  | @fetched looks pages status outcome rows polls paged =>
      obtain rfl := unread rows
      cases outcome with
      | ok list =>
          obtain ⟨text, rfl⟩ := Page.malformed_of_merge failed
          cases retryable
      | error error =>
          cases failed
          apply List.eq_nil_iff_forall_not_mem.mpr
          intro other isOpen
          -- Only the query of this attempt was found to have succeeded, and the pages that were
          -- asked for are its own.
          rcases mem_pending_append.mp isOpen with ⟨early, unexcused⟩ | late
          · obtain ⟨event, member, found⟩ := exists_of_mem_pending early
            obtain ⟨rfl, _⟩ := polls.success? event member other found
            rw [paged.refusesPage rfl retryable] at unexcused
            cases unexcused
          · rw [pending_eq_nil_of_forall paged.success?] at late
            cases late

theorem Attempted.excused {withRows : Bool} {number : Nat} {outcome : Except Error Result}
    {error : Error} (attempted : c.Attempted sql withRows number trace outcome)
    (failed : outcome = .error error) (retryable : error.isRetryable = true)
    (unread : withRows = true → excuses = refusesPage) : pending success? excuses trace = [] := by
  cases attempted with
  | refused => rfl
  | submitted attended => exact attended.excused failed retryable unread

def excusing (excuses : String → service.Event → Bool) : Protocol service (List service.Event) :=
  .ofPast fun past request => ∀ query, request = .start query → pending success? excuses past = []

theorem attempts_excused (c : Client) (sql : String) (withRows : Bool)
    (unread : withRows = true → excuses = refusesPage) :
    (c.attempts sql withRows).run.Keeps (Call.protocol (excusing excuses) Eq) (fun _ _ => True)
      [] := by
  refine c.attemptsFrom_keeps_of (fun past : List service.Event =>
    pending success? excuses past = []) ?_ ?_ ?_ ?_ rfl
  · intro past excused
    apply Call.keeps_prepare
    intro later reply same
    subst same
    cases reply with
    | error => trivial
    | ok => exact excused
  · intro number past excused
    apply Call.keeps_own
    apply c.attempt_keeps_past
    · intro past request attends query same
      rw [same] at attends
      cases attends
    · intro submittedAt query _
      exact pending_append_eq_nil excused rfl
    · intro trace outcome attempted
      refine ⟨trivial, ?_⟩
      intro error failed retryable
      exact pending_append_eq_nil excused (attempted.excused failed retryable unread)
  · intro past excused
    apply Call.keeps_own
    refine Fallible.keeps_lift.mpr (keeps_request_ofPast.mpr ⟨nofun, ?_⟩)
    intro slept
    exact pending_append_eq_nil excused rfl
  · intro _ _ _ _
    trivial

theorem statementCall_excused (c : Client) (sql : String) :
    (c.statementCall sql).run.Keeps (Call.protocol (excusing excuses) Eq) (fun _ _ => True) [] := by
  apply Fallible.keeps_bind.mpr
  apply (c.attempts_excused sql false nofun).mono
  intro past outcome _
  cases outcome <;> trivial

theorem submitsExcused_of_keeps {α : Type} {call reached : Program Call.service α}
    {post : List service.Event → α → Prop} {events : List Call.service.Event}
    (keeps : call.Keeps (Call.protocol (excusing excuses) Eq) post [])
    (ran : call.Runs events reached) : SubmitsExcused excuses (Call.ownEvents events) := by
  intro before query reply after own
  obtain ⟨earlier, later, rfl, rfl⟩ := Call.exists_of_ownEvents_eq_append own
  have steps := Call.steps_ownEvents (excusing excuses).allowed [] earlier
  exact keeps.allowed ran steps query rfl

/-- After a query was found to have succeeded, its text is submitted again only if a page of its
result was refused with an error that can be retried. A statement whose rows are not wanted is never
submitted again. -/
theorem resubmits_only_unread (c : Client) (sql : String) :
    (∀ trace rest, (c.execute sql).run.Runs trace rest → SubmitsExcused refusesPage trace) ∧
    (∀ trace rest, (c.executeStatement sql).run.Runs trace rest →
      SubmitsExcused (fun _ _ => false) trace) ∧
    ∀ preparation trace rest, (c.executePrepared preparation sql).run.Runs trace rest →
      ∃ events reached,
        Account (Call.carryOut preparation) (c.statementCall sql).run events reached trace rest ∧
          SubmitsExcused (fun _ _ => false) (Call.ownEvents events) := by
  have prepared : ∀ preparation trace rest,
      (c.executePrepared preparation sql).run.Runs trace rest →
      ∃ events reached,
        Account (Call.carryOut preparation) (c.statementCall sql).run events reached trace rest ∧
          SubmitsExcused (fun _ _ => false) (Call.ownEvents events) := by
    intro preparation trace rest ran
    obtain ⟨events, reached, account⟩ := ran.account
    exact ⟨events, reached, account,
      submitsExcused_of_keeps (c.statementCall_excused sql) account.ran⟩
  refine ⟨?_, ?_, prepared⟩
  · intro trace rest ran
    obtain ⟨events, reached, account⟩ := ran.account
    rw [Call.account_unprepared account]
    exact submitsExcused_of_keeps (c.attempts_excused sql true fun _ => rfl) account.ran
  · intro trace rest ran
    obtain ⟨events, reached, account, submits⟩ := prepared (pure ()) trace rest ran
    rwa [Call.account_unprepared account]

/-- A query is submitted three times, although it succeeds the second time, and a prepared statement
twice. -/
theorem resubmits_only_unread_repeatedly :
    let c : Client := ⟨{ Profile.ofRequired "s3://b/" "r" "s" "d" with retries := 2 }, 1⟩
    let preparation : Work Unit := do let _ ← Work.deletePrefix "s3://b/tmp/"
    let query := (c.execute "SELECT 1").run.play failingAnswers 0
    let statement := (c.executeStatement "SELECT 1").run.play failingAnswers 0
    let prepared := (c.executePrepared preparation "SELECT 1").run.play failingAnswers 0
    starts query.1 = 3 ∧ query.1.filterMap success? = ["later", "later"] ∧
      starts statement.1 = 2 ∧ starts prepared.1 = 2 ∧
      SubmitsExcused refusesPage query.1 ∧ SubmitsExcused (fun _ _ => false) statement.1 ∧
      ∃ events reached,
        Account (Call.carryOut preparation) (c.statementCall "SELECT 1").run events reached
            prepared.1 prepared.2 ∧
          SubmitsExcused (fun _ _ => false) (Call.ownEvents events) := by
  intro c preparation query statement prepared
  obtain ⟨forQueries, forStatements, forPrepared⟩ := c.resubmits_only_unread "SELECT 1"
  refine ⟨by decide +kernel, by decide +kernel, by decide +kernel, by decide +kernel, ?_, ?_, ?_⟩
  · exact forQueries query.1 query.2 (runs_play _ _ _)
  · exact forStatements statement.1 statement.2 (runs_play _ _ _)
  · exact forPrepared preparation prepared.1 prepared.2 (runs_play _ _ _)

/-- A text that inserts rows is submitted again after it has succeeded, when it is run as a query
and its page of results is refused. -/
theorem resubmits_succeeded_insert :
    let c : Client := ⟨{ Profile.ofRequired "s3://b/" "r" "s" "d" with retries := 1 }, 1⟩
    let ran := (c.execute "INSERT INTO t SELECT 1").run.play failingAnswers 1
    starts ran.1 = 2 ∧ ¬SubmitsExcused (fun _ _ => false) ran.1 := by
  intro c ran
  refine ⟨by decide +kernel, ?_⟩
  intro excused
  have again : ran.1[6]?.map (·.request) =
      some (.start (c.requestFor "INSERT INTO t SELECT 1")) := by decide +kernel
  obtain ⟨reply, split⟩ := split_at_request again
  have none := excused _ _ _ _ split
  have succeeded : pending success? (fun _ _ => false) (ran.1.take 6) = ["later"] := by
    decide +kernel
  rw [succeeded] at none
  cases none

end Client
end AthenaModels
