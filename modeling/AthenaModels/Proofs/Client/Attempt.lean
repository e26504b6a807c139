import AthenaModels.Proofs.Client.Requests
import AthenaModels.Proofs.Client.Resubmission
import AthenaModels.Proofs.Program.Completion

namespace AthenaModels.Client

open Fallible Program Warehouse

variable (c : Client) {id sql : String} {start failures : Nat} {trace : List service.Event}

inductive InTime (start : Nat) : List service.Event → Prop where
  | unlimited (free : c.profile.timeout = none) : InTime start []
  | early {limit now : Nat} (limited : c.profile.timeout = some limit)
      (early : now - start < limit * Nat.pow 10 9) : InTime start [⟨.clock, now⟩]

/-- The looks at a query until it is over or given up; before them, `failures` in a row have
failed. -/
inductive Polled (id : String) (start : Nat) :
    Nat → List service.Event → Except Error QueryStatus → Prop where
  | succeeded {failures : Nat} {status : QueryStatus} (state : status.state = .succeeded) :
      Polled id start failures [checked id (.ok status)] (.ok status)
  | failed {failures : Nat} {status : QueryStatus} (state : status.state = .failed) :
      Polled id start failures [checked id (.ok status)]
        (.error (.queryFailed id (status.reason.getD "unknown")))
  | cancelled {failures : Nat} {status : QueryStatus} (state : status.state = .cancelled) :
      Polled id start failures [checked id (.ok status)] (.error (.queryCancelled id))
  | overdue {failures limit now : Nat} {status : QueryStatus} {stopped : Except Error Unit}
      (state : status.state.isTerminal = false) (limited : c.profile.timeout = some limit)
      (late : limit * Nat.pow 10 9 ≤ now - start) :
      Polled id start failures [checked id (.ok status), ⟨.clock, now⟩, ⟨.stop id, stopped⟩]
        (.error (.queryTimeout id limit))
  | refused {failures : Nat} {error : Error} (final : error.isRetryable = false) :
      Polled id start failures [checked id (.error error)] (.error error)
  | exhausted {failures : Nat} {error : Error} (retryable : error.isRetryable = true)
      (many : c.maxAttempts ≤ failures + 1) :
      Polled id start failures [checked id (.error error)]
        (.error (.retriesExhausted (failures + 1) error))
  | again {failures : Nat} {error : Error} {trace : List service.Event}
      {outcome : Except Error QueryStatus} (retryable : error.isRetryable = true)
      (few : failures + 1 < c.maxAttempts) (later : Polled id start (failures + 1) trace outcome) :
      Polled id start failures
        (checked id (.error error) :: ⟨.sleep c.profile.pollInterval, ()⟩ :: trace) outcome
  | waiting {failures : Nat} {status : QueryStatus} {looks trace : List service.Event}
      {outcome : Except Error QueryStatus} (state : status.state.isTerminal = false)
      (inTime : c.InTime start looks) (later : Polled id start 0 trace outcome) :
      Polled id start failures
        (checked id (.ok status) :: looks ++ ⟨.sleep c.profile.pollInterval, ()⟩ :: trace) outcome

theorem runs_stopOverdue {last : Except Error Unit}
    (ran : Runs (c.stopOverdue id start).run trace (.done last)) :
    (last = .ok () ∧ c.InTime start trace) ∨
      ∃ limit now stopped, c.profile.timeout = some limit ∧ limit * Nat.pow 10 9 ≤ now - start ∧
        trace = [⟨.clock, now⟩, ⟨.stop id, stopped⟩] ∧ last = .error (.queryTimeout id limit) := by
  unfold stopOverdue at ran
  cases limited : c.profile.timeout with
  | none =>
      rw [limited] at ran
      obtain ⟨rfl, same⟩ := runs_done.mp ran
      cases same
      exact .inl ⟨rfl, .unlimited limited⟩
  | some limit =>
      rw [limited] at ran
      obtain ⟨now, before, after, rfl, first, second⟩ := runs_bind_lift ran
      cases runs_request first
      by_cases late : limit * Nat.pow 10 9 ≤ now - start
      · rw [if_pos late] at second
        obtain ⟨stopped, before, after, rfl, asked, thrown⟩ := runs_bind_outcome second
        cases runs_request asked
        obtain ⟨rfl, same⟩ := runs_done.mp thrown
        cases same
        exact .inr ⟨limit, now, stopped, rfl, late, rfl, rfl⟩
      · rw [if_neg late] at second
        obtain ⟨rfl, same⟩ := runs_done.mp second
        cases same
        exact .inl ⟨rfl, .early limited (Nat.lt_of_not_le late)⟩

section
variable {patience : Nat} {last : Except Error QueryStatus}

def Continues (id : String) (start patience : Nat) (last : Except Error QueryStatus) : Prop :=
  ∀ failures trace, Runs (c.pollFrom id start patience failures).run trace (.done last) →
    c.Polled id start failures trace last

variable {c}

theorem Continues.after_pause (continues : c.Continues id start patience last)
    (ran : Runs (do c.pause; c.pollFrom id start patience failures : Work QueryStatus).run trace
      (.done last)) :
    ∃ later, trace = ⟨.sleep c.profile.pollInterval, ()⟩ :: later ∧
      c.Polled id start failures later last := by
  obtain ⟨_, before, after, rfl, slept, later⟩ := runs_bind_lift ran
  cases runs_request slept
  exact ⟨after, rfl, continues failures after later⟩

theorem Continues.after_error (continues : c.Continues id start patience last) {error : Error}
    (ran : Runs (if !error.isRetryable then throw error
      else if c.maxAttempts ≤ failures + 1 then throw (.retriesExhausted (failures + 1) error)
      else do c.pause; c.pollFrom id start patience (failures + 1) : Work QueryStatus).run trace
        (.done last)) :
    c.Polled id start failures (checked id (.error error) :: trace) last := by
  by_cases retryable : error.isRetryable = true
  · rw [if_neg (by simp [retryable])] at ran
    by_cases many : c.maxAttempts ≤ failures + 1
    · rw [if_pos many] at ran
      obtain ⟨rfl, same⟩ := runs_done.mp ran
      cases same
      exact .exhausted retryable many
    · rw [if_neg many] at ran
      obtain ⟨later, rfl, polled⟩ := continues.after_pause ran
      exact .again retryable (Nat.lt_of_not_le many) polled
  · rw [if_pos (by simp [retryable])] at ran
    obtain ⟨rfl, same⟩ := runs_done.mp ran
    cases same
    exact .refused (Bool.eq_false_iff.mpr retryable)

theorem Continues.after_unfinished (continues : c.Continues id start patience last)
    {status : QueryStatus} (state : status.state.isTerminal = false)
    (ran : Runs (do c.stopOverdue id start; c.pause; c.pollFrom id start patience 0 :
      Work QueryStatus).run trace (.done last)) :
    c.Polled id start failures (checked id (.ok status) :: trace) last := by
  rcases runs_bind ran with ⟨error, rfl, stopped⟩ | ⟨_, before, after, rfl, looked, more⟩
  · rcases c.runs_stopOverdue stopped with ⟨same, _⟩ | ⟨limit, now, reply, limited, late, rfl, same⟩
    · cases same
    · cases same
      exact .overdue state limited late
  · rcases c.runs_stopOverdue looked with ⟨_, inTime⟩ | ⟨_, _, _, _, _, _, same⟩
    · obtain ⟨later, rfl, polled⟩ := continues.after_pause more
      exact .waiting state inTime polled
    · cases same

theorem continues (c : Client) (id : String) (start patience : Nat)
    (last : Except Error QueryStatus) : c.Continues id start patience last := by
  induction patience with
  | zero =>
      -- Without patience the run does not come to its end.
      intro failures trace ran
      cases (runs_exhausted.mp ran).2
  | succ patience ih =>
      intro failures trace ran
      obtain ⟨reply, before, after, rfl, looked, rest⟩ := runs_bind_outcome ran
      cases runs_request looked
      cases reply with
      | error error => exact ih.after_error rest
      | ok status =>
          dsimp only at rest
          cases state : status.state with
          | succeeded =>
              rw [state] at rest
              obtain ⟨rfl, same⟩ := runs_done.mp rest
              cases same
              exact .succeeded state
          | failed =>
              rw [state] at rest
              obtain ⟨rfl, same⟩ := runs_done.mp rest
              cases same
              exact .failed state
          | cancelled =>
              rw [state] at rest
              obtain ⟨rfl, same⟩ := runs_done.mp rest
              cases same
              exact .cancelled state
          | queued =>
              rw [state] at rest
              exact ih.after_unfinished (by rw [state]; rfl) rest
          | running =>
              rw [state] at rest
              exact ih.after_unfinished (by rw [state]; rfl) rest

end

/-- All looks at a query, after one at the clock if there is a limit. -/
inductive Polls (id : String) : List service.Event → Except Error QueryStatus → Prop where
  | unlimited {looks : List service.Event} {outcome : Except Error QueryStatus}
      (free : c.profile.timeout = none) (polled : c.Polled id 0 0 looks outcome) :
      Polls id looks outcome
  | limited {limit start : Nat} {looks : List service.Event} {outcome : Except Error QueryStatus}
      (limited : c.profile.timeout = some limit) (polled : c.Polled id start 0 looks outcome) :
      Polls id (⟨.clock, start⟩ :: looks) outcome

theorem polls_of_runs {last : Except Error QueryStatus}
    (ran : Runs (c.poll id).run trace (.done last)) : c.Polls id trace last := by
  unfold poll at ran
  cases limited : c.profile.timeout with
  | none =>
      rw [limited] at ran
      exact .unlimited limited (c.continues id 0 c.patience last 0 trace ran)
  | some limit =>
      rw [limited] at ran
      obtain ⟨start, before, after, rfl, looked, rest⟩ := runs_bind_lift ran
      cases runs_request looked
      exact .limited limited (c.continues id start c.patience last 0 after rest)

inductive Paged (id : String) :
    Option String → List service.Event → Except Error (List Page) → Prop where
  | refused {token : Option String} {error : Error} :
      Paged id token [⟨.page id token, .error error⟩] (.error error)
  | last {token : Option String} {page : Page} (link : page.nextToken = none) :
      Paged id token [⟨.page id token, .ok page⟩] (.ok [page])
  | more {token : Option String} {next : String} {page : Page} {trace : List service.Event}
      {outcome : Except Error (List Page)} (link : page.nextToken = some next)
      (later : Paged id (some next) trace outcome) :
      Paged id token (⟨.page id token, .ok page⟩ :: trace) (outcome.map (page :: ·))

theorem paged_of_runs {patience : Nat} {token : Option String} {last : Except Error (List Page)}
    (ran : Runs (pagesFrom id patience token).run trace (.done last)) :
    Paged id token trace last := by
  induction patience generalizing token trace last with
  | zero =>
      obtain ⟨_, same⟩ := runs_exhausted.mp ran
      cases same
  | succ patience ih =>
      rcases runs_bind ran with ⟨error, rfl, asked⟩ | ⟨page, before, after, rfl, asked, rest⟩
      · cases runs_request asked
        exact .refused
      · cases runs_request asked
        cases link : page.nextToken with
        | none =>
            rw [link] at rest
            obtain ⟨rfl, same⟩ := runs_done.mp rest
            cases same
            exact .last link
        | some next =>
            rw [link] at rest
            rcases runs_bind rest with ⟨error, rfl, failed⟩ | ⟨pages, before, after, rfl, read, ends⟩
            · exact .more link (ih failed)
            · obtain ⟨rfl, same⟩ := runs_done.mp ends
              cases same
              rw [List.append_nil]
              exact .more link (ih read)

inductive Attended (withRows : Bool) (number : Nat) (submittedAt : Timestamp) (id : String) :
    List service.Event → Except Error Result → Prop where
  | unsuccessful {trace : List service.Event} {error : Error}
      (polls : c.Polls id trace (.error error)) :
      Attended withRows number submittedAt id trace (.error error)
  | executed {trace : List service.Event} {status : QueryStatus} (rowless : withRows = false)
      (polls : c.Polls id trace (.ok status)) :
      Attended withRows number submittedAt id trace
        (.ok ⟨[], [], metadataOf id status number submittedAt⟩)
  | fetched {looks pages : List service.Event} {status : QueryStatus}
      {outcome : Except Error (List Page)} (rows : withRows = true)
      (polls : c.Polls id looks (.ok status)) (paged : Paged id none pages outcome) :
      Attended withRows number submittedAt id (looks ++ pages)
        (outcome.bind fun list => Page.merge list (metadataOf id status number submittedAt))

theorem attended_of_runs {withRows : Bool} {number : Nat} {submittedAt : Timestamp}
    {last : Except Error Result}
    (ran : Runs (c.attend withRows number submittedAt id).run trace (.done last)) :
    c.Attended withRows number submittedAt id trace last := by
  rcases runs_bind ran with ⟨error, rfl, failed⟩ | ⟨status, looks, after, rfl, succeeded, rest⟩
  · exact .unsuccessful (c.polls_of_runs failed)
  · have polls := c.polls_of_runs succeeded
    cases withRows with
    | false =>
        obtain ⟨rfl, same⟩ := runs_done.mp rest
        cases same
        rw [List.append_nil]
        exact .executed rfl polls
    | true =>
        rcases runs_bind rest with ⟨error, rfl, failed⟩ | ⟨pages, before, after, rfl, read, merged⟩
        · exact .fetched rfl polls (paged_of_runs failed)
        · obtain ⟨rfl, rfl⟩ := runs_ofExcept merged
          rw [List.append_nil]
          exact .fetched rfl polls (paged_of_runs read)

/-- What an attempt asks for: the time, a submission, and what follows it if there is a query. -/
inductive Attempted (sql : String) (withRows : Bool) (number : Nat) :
    List service.Event → Except Error Result → Prop where
  | refused {submittedAt : Timestamp} {error : Error} :
      Attempted sql withRows number
        [⟨.now, submittedAt⟩, started (c.requestFor sql) (.error error)] (.error error)
  | submitted {submittedAt : Timestamp} {id : String} {trace : List service.Event}
      {outcome : Except Error Result}
      (attended : c.Attended withRows number submittedAt id trace outcome) :
      Attempted sql withRows number
        (⟨.now, submittedAt⟩ :: started (c.requestFor sql) (.ok id) :: trace) outcome

/-- An attempt submits once, right after the time was asked for. -/
theorem attempt_keeps_past {withRows : Bool} {number : Nat}
    {allowed : List service.Event → Warehouse.Request → Prop} {past : List service.Event}
    {post : List service.Event → Except Error Result → Prop}
    (attends : ∀ past request, Attends request → allowed past request)
    (submits : ∀ submittedAt,
      allowed (past ++ [⟨.now, submittedAt⟩]) (.start (c.requestFor sql)))
    (after : ∀ trace outcome, c.Attempted sql withRows number trace outcome →
      post (past ++ trace) outcome) :
    (c.attempt sql withRows number).run.Keeps (.ofPast allowed) post past := by
  rw [attempt_eq]
  refine Fallible.keeps_bind.mpr (keeps_lift.mpr
    (keeps_request_ofPast.mpr ⟨attends past .now trivial, ?_⟩))
  intro submittedAt
  refine Fallible.keeps_bind.mpr (keeps_request_ofPast.mpr ⟨submits submittedAt, ?_⟩)
  intro reply
  rw [List.append_assoc]
  cases reply with
  | error error => exact after _ _ .refused
  | ok id =>
      apply keeps_of_runs (c.attend_makes withRows number submittedAt id) attends
      intro trace outcome last ran steps
      rw [Protocol.steps_ofPast_iff.mp steps, List.append_assoc]
      exact after _ _ (.submitted (c.attended_of_runs ran))

end AthenaModels.Client
