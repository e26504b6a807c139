import AthenaModels.Proofs.Client.Ledger

namespace AthenaModels.Client

open Fallible Program Warehouse

namespace Ledger

structure Open (limit attempts submissions : Nat) (ledger : Ledger) : Prop where
  unrefused : ledger.refusal = none
  few : ledger.failures.length < limit
  attempted : ledger.attempts = attempts
  submitted : ledger.submissions.length = submissions

theorem after_append (ledger : Ledger) (before after : List Call.service.Event) :
    ledger.after (before ++ after) = (ledger.after before).after after :=
  List.foldl_append

theorem Open.prepared {limit attempts submissions : Nat} {ledger : Ledger}
    (now : ledger.Open limit attempts submissions) :
    (ledger.next ⟨.prepare, .ok ()⟩).Open limit (attempts + 1) submissions :=
  ⟨now.unrefused, now.few, congrArg (· + 1) now.attempted, now.submitted⟩

theorem submissions_look (ledger : Ledger) (reply : Except Error QueryStatus) :
    (ledger.look reply).submissions = ledger.submissions := by
  cases reply <;> rfl

theorem length_submissions_after (ledger : Ledger) (events : List Call.service.Event) :
    (ledger.after events).submissions.length =
      ledger.submissions.length + starts (Call.ownEvents events) := by
  induction events generalizing ledger with
  | nil => rfl
  | cons event events ih =>
      obtain ⟨request, reply⟩ := event
      change ((ledger.next ⟨request, reply⟩).after events).submissions.length = _
      rw [ih]
      cases request with
      | prepare => cases reply <;> rfl
      | own r =>
          cases r with
          | start query =>
              change (ledger.submissions ++ [reply]).length + starts (Call.ownEvents events) =
                ledger.submissions.length + starts (_ :: Call.ownEvents events)
              rw [starts, starts, List.countP_cons_of_pos rfl, List.length_append]
              change _ + 1 + _ = _ + (_ + 1)
              omega
          | status id =>
              rw [Ledger.next]
              split
              · rw [submissions_look]
                rfl
              · rfl
          | _ => rfl

structure Within (limit : Nat) (ledger : Ledger) : Prop where
  attempts : ledger.attempts ≤ limit
  submissions : ledger.submissions.length ≤ limit
  failures : ledger.failures.length ≤ limit

theorem Within.look {limit : Nat} {ledger : Ledger} (within : ledger.Within limit)
    (few : ledger.failures.length < limit) (reply : Except Error QueryStatus) :
    (ledger.look reply).Within limit := by
  cases reply with
  | ok => exact ⟨within.attempts, within.submissions, Nat.zero_le limit⟩
  | error error =>
      rw [Ledger.look]
      split
      · exact ⟨within.attempts, within.submissions, few⟩
      · exact ⟨within.attempts, within.submissions, Nat.zero_le limit⟩

theorem Within.next {limit : Nat} {ledger : Ledger} {event : Call.service.Event}
    (within : ledger.Within limit) (allowed : (protocol limit).allowed ledger event.request) :
    (ledger.next event).Within limit := by
  obtain ⟨_, few, prepares, submits⟩ := allowed
  obtain ⟨request, reply⟩ := event
  cases request with
  | prepare =>
      cases reply with
      | ok => exact ⟨prepares rfl, within.submissions, within.failures⟩
      | error => exact ⟨prepares rfl, within.submissions, within.failures⟩
  | own r =>
      cases r with
      | start query =>
          refine ⟨within.attempts, ?_, Nat.zero_le limit⟩
          change (ledger.submissions ++ [_]).length ≤ limit
          rw [List.length_append]
          exact submits query rfl
      | status id =>
          rw [Ledger.next]
          split
          · exact within.look few reply
          · exact within
      | _ => exact within

theorem open_empty {c : Client} : empty.Open c.maxAttempts 0 0 := ⟨rfl, maxAttempts_pos, rfl, rfl⟩

end Ledger

variable {c : Client} {sql : String} {withRows : Bool} {number attempts submissions : Nat}
  {ledger : Ledger} {outcome : Except Error Result} {events : List Call.service.Event}

theorem Entered.open {later : Ledger} {error : Error}
    (entered : c.Entered number ledger later (.error error)) (retryable : error.isRetryable = true)
    (now : ledger.Open c.maxAttempts attempts submissions) :
    later.Open c.maxAttempts attempts (submissions + 1) := by
  obtain ⟨attempted, submitted, unrefused, closes, _⟩ := entered
  cases closes with
  | within few =>
      exact ⟨unrefused, few, by rw [attempted, now.attempted], by rw [submitted, now.submitted]⟩
  | exhausted => cases retryable

theorem entered_of_runs {trace : List service.Event}
    (ran : Runs (c.attempt sql withRows number).run trace (.done outcome))
    (told : ∀ event ∈ round trace, Call.Unexhausted event)
    (now : ledger.Open c.maxAttempts attempts submissions) (fewer : submissions < c.maxAttempts) :
    c.Entered number (ledger.next ⟨.prepare, .ok ()⟩) (ledger.after (round trace)) outcome := by
  have unspent : ledger.submissions.length < c.maxAttempts := by rwa [now.submitted]
  have keeps : (c.attempt sql withRows number).run.Keeps _ _ _ :=
    c.attempt_keeps_ledger now.prepared.unrefused now.prepared.few unspent
  have own := (List.forall_mem_cons.mp told).2
  exact keeps.run ran (Call.steps_lowered_iff.mpr (Ledger.steps_iff.mpr ⟨own, rfl⟩))

theorem Retried.open {errors : List Error} {done : Nat}
    (retried : c.Retried sql withRows number errors events)
    (told : ∀ event ∈ events, Call.Unexhausted event) (few : done + errors.length ≤ c.maxAttempts)
    (now : ledger.Open c.maxAttempts done done) :
    (ledger.after events).Open c.maxAttempts (done + errors.length) (done + errors.length) := by
  induction retried generalizing done ledger with
  | first => exact now
  | @again number error errors trace events ran retryable _ ih =>
      obtain ⟨first, second⟩ := List.forall_mem_append.mp told
      have later := (List.forall_mem_cons.mp second).2
      have counted : done + (error :: errors).length = done + 1 + errors.length := by
        rw [List.length_cons]
        omega
      rw [counted] at few ⊢
      have entered := entered_of_runs ran first now (by omega)
      rw [Ledger.after_append]
      exact ih later few (entered.open retryable now.prepared)

/-- All attempts there may be ended in errors that can be retried, the last one in this error. -/
def AllFailed (c : Client) (sql : String) (withRows : Bool) (events : List Call.service.Event)
    (last : Error) : Prop :=
  ∃ errors before trace, c.Retried sql withRows 1 errors before ∧
    1 + errors.length = c.maxAttempts ∧
    Runs (c.attempt sql withRows c.maxAttempts).run trace (.done (.error last)) ∧
    last.isRetryable = true ∧ events = before ++ round trace

/-- As many looks in a row as may fail have failed at the query that was submitted last, with this
error in the end. -/
def LooksFailed (c : Client) (events : List Call.service.Event) (last : Error) : Prop :=
  (Ledger.empty.after events).failures.length = c.maxAttempts ∧
    (Ledger.empty.after events).failures.head? = some last

theorem AllFailed.runs {last : Error} (failed : c.AllFailed sql withRows events last) :
    Runs (c.attempts sql withRows).run events
      (.done (.error (.retriesExhausted c.maxAttempts last))) := by
  obtain ⟨errors, before, trace, retried, all, ran, retryable, rfl⟩ := failed
  have more : c.maxAttempts - 1 = 0 + errors.length := by omega
  rw [attempts, more]
  apply retried.runs
  rw [← all] at ran ⊢
  refine runs_attemptThen_iff.mpr (.inr ⟨trace, _, [], by rw [List.append_nil], ran, ?_⟩)
  exact runs_settle_iff.mpr (.inr ⟨last, rfl, retryable, .stop _⟩)

theorem AllFailed.open {last : Error} (failed : c.AllFailed sql withRows events last)
    (told : ∀ event ∈ events, Call.Unexhausted event) :
    (Ledger.empty.after events).Open c.maxAttempts c.maxAttempts c.maxAttempts := by
  obtain ⟨errors, before, trace, retried, all, ran, retryable, rfl⟩ := failed
  obtain ⟨earlier, round⟩ := List.forall_mem_append.mp told
  have now := retried.open earlier (by omega) Ledger.open_empty
  have entered := entered_of_runs ran round now (by omega)
  have counted : 0 + errors.length + 1 = c.maxAttempts := by omega
  have later := entered.open retryable now.prepared
  rwa [counted, ← Ledger.after_append] at later

inductive Booked (c : Client) (sql : String) (withRows : Bool) (events : List Call.service.Event)
    (ledger : Ledger) : Except Error Result → Prop where
  | refused {error : Error} (refusal : ledger.refusal = some error)
      (few : ledger.failures.length < c.maxAttempts) (other : error.isExhaustion = false) :
      Booked c sql withRows events ledger (.error error)
  | decided {outcome : Except Error Result} (unrefused : ledger.refusal = none)
      (closes : ledger.Closes c.maxAttempts outcome)
      (succeeded : ∀ result, outcome = .ok result →
        result.metadata.attempts = ledger.submissions.length ∧
        ledger.submissions.getLast? = some (.ok result.metadata.queryId) ∧
        result.metadata.state = .succeeded) :
      Booked c sql withRows events ledger outcome
  | exhausted {error : Error} (unrefused : ledger.refusal = none)
      (few : ledger.failures.length < c.maxAttempts)
      (failed : c.AllFailed sql withRows events error) :
      Booked c sql withRows events ledger (.error (.retriesExhausted c.maxAttempts error))

theorem Ended.booked (ended : c.Ended sql withRows 1 c.maxAttempts events outcome)
    (told : ∀ event ∈ events, Call.Unexhausted event) :
    c.Booked sql withRows events (Ledger.empty.after events) outcome := by
  cases ended with
  | @unprepared errors events error retried few =>
      obtain ⟨earlier, last⟩ := List.forall_mem_append.mp told
      have now := retried.open earlier (by omega) Ledger.open_empty
      rw [Ledger.after_append]
      exact .refused rfl now.few (last _ List.mem_cons_self error rfl)
  | @decided errors events trace _ retried few ran final =>
      obtain ⟨earlier, last⟩ := List.forall_mem_append.mp told
      have now := retried.open earlier (by omega) Ledger.open_empty
      have entered := entered_of_runs ran last now (by omega)
      rw [Ledger.after_append]
      refine .decided entered.unrefused entered.closes ?_
      intro result same
      obtain ⟨number, query, state⟩ := entered.succeeded result same
      have counted := entered.submissions
      have before := now.submitted
      refine ⟨?_, query, state⟩
      rw [number, counted]
      change _ = (Ledger.empty.after events).submissions.length + 1
      omega
  | @exhausted errors events trace error retried all ran retryable =>
      rw [all] at ran
      have failed : c.AllFailed sql withRows (events ++ round trace) error :=
        ⟨errors, events, trace, retried, all, ran, retryable, rfl⟩
      have now := failed.open told
      exact .exhausted now.unrefused now.few failed

structure Tallied (c : Client) (events : List Call.service.Event) : Prop where
  starts : starts (Call.ownEvents events) = (Ledger.empty.after events).submissions.length
  within : (Ledger.empty.after events).Within c.maxAttempts
  goes_on : ∀ before event after, events = before ++ event :: after →
    (Ledger.empty.after before).refusal = none ∧
      (Ledger.empty.after before).failures.length < c.maxAttempts

theorem attempts_keep_ledger (c : Client) (sql : String) (withRows : Bool) :
    (c.attempts sql withRows).run.Keeps (Ledger.protocol c.maxAttempts) (fun _ _ => True)
      .empty := by
  have limit : 1 + (c.maxAttempts - 1) = c.maxAttempts := by
    have := maxAttempts_pos (c := c)
    omega
  refine c.attemptsFrom_keeps_at
    (fun number ledger => ∃ done, number = done + 1 ∧ number ≤ c.maxAttempts ∧
      ledger.Open c.maxAttempts done done)
    (fun number ledger => ∃ done, number = done + 1 ∧ number ≤ c.maxAttempts ∧
      ledger.Open c.maxAttempts number done)
    (fun number ledger => ledger.Open c.maxAttempts number number) ?_ ?_ ?_ ?_ limit ?_
  · rintro _ ledger ⟨done, rfl, few, now⟩
    have fewer : ledger.attempts < c.maxAttempts := by
      rw [now.attempted]
      exact few
    refine ⟨⟨now.unrefused, now.few, fun _ => fewer, nofun⟩, ?_⟩
    rintro reply _ ⟨_, rfl⟩
    cases reply with
    | error => trivial
    | ok => exact ⟨done, rfl, few, now.prepared⟩
  · rintro _ ledger ⟨done, rfl, few, now⟩
    have fewer : ledger.submissions.length < c.maxAttempts := by
      rw [now.submitted]
      exact few
    apply Call.keeps_own_lowered
    apply (c.attempt_keeps_ledger now.unrefused now.few fewer).mono
    intro later outcome entered
    refine ⟨trivial, ?_⟩
    rintro error rfl retryable
    exact entered.open retryable now
  · rintro number ledger fewer now
    apply Call.keeps_own_lowered
    refine keeps_lift.mpr (keeps_request.mpr ⟨⟨now.unrefused, now.few, nofun, nofun⟩, ?_⟩)
    rintro _ _ ⟨_, rfl⟩
    exact ⟨number, rfl, fewer, now⟩
  · intro _ _ _ _
    trivial
  · exact ⟨0, rfl, maxAttempts_pos, Ledger.open_empty⟩

theorem tallied_of_keeps {α : Type} {call reached : Program Call.service α}
    {post : Ledger → α → Prop} (keeps : call.Keeps (Ledger.protocol c.maxAttempts) post .empty)
    (ran : call.Runs events reached) (told : ∀ event ∈ events, Call.Unexhausted event) :
    c.Tallied events := by
  refine ⟨?_, ?_, ?_⟩
  · rw [Ledger.length_submissions_after]
    exact (Nat.zero_add _).symm
  · apply keeps.preserved ran (Ledger.steps_iff.mpr ⟨told, rfl⟩)
    · rintro ledger event _ within allowed ⟨_, rfl⟩
      exact within.next allowed
    · exact ⟨Nat.zero_le _, Nat.zero_le _, Nat.zero_le _⟩
  · rintro before event after rfl
    have earlier := (List.forall_mem_append.mp told).1
    have allowed := keeps.allowed ran (Ledger.steps_iff.mpr ⟨earlier, rfl⟩)
    exact ⟨allowed.1, allowed.2.1⟩

structure Accounted (c : Client) (sql : String) (withRows : Bool) (events : List Call.service.Event)
    (outcome : Except Error Result) : Prop where
  ended : c.Ended sql withRows 1 c.maxAttempts events outcome
  exhausted : ∀ count last, outcome = .error (.retriesExhausted count last) ↔
    count = c.maxAttempts ∧ (c.AllFailed sql withRows events last ∨ c.LooksFailed events last)
  transient : ∀ count last, outcome = .error (.retriesExhausted count last) →
    (∃ id reason, last = .queryFailed id reason) ∨ ∃ text, last = .service text
  submitted : ∀ last, c.AllFailed sql withRows events last →
    (Ledger.empty.after events).submissions.length = c.maxAttempts
  refused : ∀ error, (Ledger.empty.after events).refusal = some error → outcome = .error error
  succeeded : ∀ result, outcome = .ok result →
    result.metadata.attempts = (Ledger.empty.after events).submissions.length ∧
    (Ledger.empty.after events).submissions.getLast? = some (.ok result.metadata.queryId) ∧
    result.metadata.state = .succeeded

theorem isRetryable_iff {error : Error} : error.isRetryable = true ↔
    (∃ id reason, error = .queryFailed id reason) ∨ ∃ text, error = .service text := by
  cases error <;> simp [Error.isRetryable]

theorem Booked.exhausted_iff {count : Nat} {last : Error}
    (booked : c.Booked sql withRows events (Ledger.empty.after events) outcome)
    (ran : Runs (c.attempts sql withRows).run events (.done outcome)) :
    outcome = .error (.retriesExhausted count last) ↔ count = c.maxAttempts ∧
      (c.AllFailed sql withRows events last ∨ c.LooksFailed events last) := by
  constructor
  · rintro rfl
    cases booked with
    | refused _ _ other => cases other
    | exhausted _ _ failed => exact ⟨rfl, .inl failed⟩
    | decided _ closes _ =>
        cases closes with
        | within _ other => cases other _ rfl
        | exhausted failures all _ => exact ⟨rfl, .inr ⟨all, by rw [failures]; rfl⟩⟩
  · rintro ⟨rfl, failed | ⟨all, lastOne⟩⟩
    · exact Program.done.inj (ran.unique failed.runs)
    · cases booked with
      | refused _ few _ => omega
      | exhausted _ few _ => omega
      | decided _ closes _ =>
          cases closes with
          | within few _ => omega
          | exhausted failures _ _ =>
              rw [failures] at lastOne
              cases lastOne
              rfl

theorem Booked.retryable {count : Nat} {last : Error}
    (booked : c.Booked sql withRows events ledger (.error (.retriesExhausted count last))) :
    last.isRetryable = true := by
  cases booked with
  | refused _ _ other => cases other
  | exhausted _ _ failed =>
      obtain ⟨_, _, _, _, _, _, retryable, _⟩ := failed
      exact retryable
  | decided _ closes _ =>
      cases closes with
      | within _ other => cases other _ rfl
      | exhausted _ _ retryable => exact retryable

theorem accounted_of_runs (ran : Runs (c.attempts sql withRows).run events (.done outcome))
    (told : ∀ event ∈ events, Call.Unexhausted event) :
    c.Accounted sql withRows events outcome := by
  have limit : 1 + (c.maxAttempts - 1) = c.maxAttempts := by
    have := maxAttempts_pos (c := c)
    omega
  have ended := ended_of_runs ran
  rw [limit] at ended
  have booked := ended.booked told
  refine ⟨ended, fun _ _ => booked.exhausted_iff ran, ?_, ?_, ?_, ?_⟩
  · rintro count last rfl
    exact isRetryable_iff.mp booked.retryable
  · intro last failed
    exact (failed.open told).submitted
  · intro error refusal
    cases booked with
    | refused same _ _ => rw [Option.some.inj (refusal.symm.trans same)]
    | decided unrefused _ _ => cases refusal.symm.trans unrefused
    | exhausted unrefused _ _ => cases refusal.symm.trans unrefused
  · rintro result rfl
    cases booked with
    | decided _ _ succeeded => exact succeeded result rfl

/-- The accounts of a call, whose outcome is read off that of its attempts. -/
def KeepsAccounts {α : Type} (c : Client) (sql : String) (withRows : Bool) (read : Result → α)
    (events : List Call.service.Event) (rest : Program service (Except Error α)) : Prop :=
  c.Tallied events ∧ ∀ outcome, rest = .done outcome →
    ∃ ended, outcome = ended.map read ∧ c.Accounted sql withRows events ended

theorem unexhausted_carryOut {preparation : Work Unit}
    (prepares : Raises Unexhausted (·.isExhaustion = false) preparation) (request : Call.Request)
    (part : List service.Event) (reply : Call.Reply request)
    (ran : Runs (Call.carryOut preparation request) part (.done reply))
    (told : ∀ event ∈ part, Unexhausted event) : Call.Unexhausted ⟨request, reply⟩ := by
  cases request with
  | own r =>
      cases runs_request ran
      exact told _ List.mem_cons_self
  | prepare =>
      cases reply with
      | ok => exact nofun
      | error error =>
          rintro _ ⟨⟩
          exact prepares part error ran told

theorem told_of_account {α : Type} {preparation : Work Unit}
    {call reached : Program Call.service α} {trace : List service.Event} {rest : Program service α}
    (prepares : Raises Unexhausted (·.isExhaustion = false) preparation)
    (account : Account (Call.carryOut preparation) call events reached trace rest)
    (told : ∀ event ∈ trace, Unexhausted event) : ∀ event ∈ events, Call.Unexhausted event := by
  obtain ⟨before, begun, rfl, expands, _⟩ := account.carried
  exact expands.forall_told (unexhausted_carryOut prepares) (List.forall_mem_append.mp told).1

theorem tallied_of_statementCall {reached : Program Call.service (Except Error Metadata)}
    (ran : Runs (c.statementCall sql).run events reached)
    (told : ∀ event ∈ events, Call.Unexhausted event) : c.Tallied events := by
  have keeps : (c.statementCall sql).run.Keeps (Ledger.protocol c.maxAttempts) (fun _ _ => True)
      .empty := by
    refine Fallible.keeps_bind.mpr ((c.attempts_keep_ledger sql false).mono ?_)
    intro _ outcome _
    cases outcome <;> trivial
  exact tallied_of_keeps keeps ran told

theorem attempts_of_statementCall {outcome : Except Error Metadata}
    (ran : Runs (c.statementCall sql).run events (.done outcome)) :
    ∃ ended, outcome = ended.map Result.metadata ∧
      Runs (c.attempts sql false).run events (.done ended) := by
  rcases runs_bind ran with ⟨error, rfl, failed⟩ | ⟨result, before, after, rfl, first, second⟩
  · exact ⟨.error error, rfl, failed⟩
  · obtain ⟨rfl, same⟩ := runs_done.mp second
    cases same
    exact ⟨.ok result, rfl, by rwa [List.append_nil]⟩

theorem keepsAccounts_of_statementCall {preparation : Work Unit}
    {reached : Program Call.service (Except Error Metadata)} {trace : List service.Event}
    {rest : Program service (Except Error Metadata)}
    (prepares : Raises Unexhausted (·.isExhaustion = false) preparation)
    (account : Account (Call.carryOut preparation) (c.statementCall sql).run events reached trace
      rest) (told : ∀ event ∈ trace, Unexhausted event) :
    c.KeepsAccounts sql false Result.metadata events rest := by
  have all := told_of_account prepares account told
  refine ⟨tallied_of_statementCall account.ran all, ?_⟩
  intro outcome finished
  obtain ⟨ended, same, ran⟩ := attempts_of_statementCall (account.complete finished)
  exact ⟨ended, same, accounted_of_runs ran all⟩

/-- A client submits a statement at most as often as its profile lets it, and it says that there are
no attempts left just when that many attempts, or that many looks in a row at one query, failed with
errors that can be retried. -/
theorem submits_at_most_maxAttempts (c : Client) (sql : String) :
    c.maxAttempts = min (c.profile.retries + 1) (Nat.pow 2 32 - 1) ∧
    (∀ trace rest, (c.execute sql).run.Runs trace rest → (∀ event ∈ trace, Unexhausted event) →
      ∃ events reached,
        Account (Call.carryOut (pure ())) (c.attempts sql true).run events reached trace rest ∧
          trace = Call.ownEvents events ∧ c.KeepsAccounts sql true id events rest) ∧
    (∀ trace rest, (c.executeStatement sql).run.Runs trace rest →
      (∀ event ∈ trace, Unexhausted event) →
      ∃ events reached,
        Account (Call.carryOut (pure ())) (c.statementCall sql).run events reached trace rest ∧
          trace = Call.ownEvents events ∧
            c.KeepsAccounts sql false Result.metadata events rest) ∧
    ∀ preparation trace rest, Raises Unexhausted (·.isExhaustion = false) preparation →
      (c.executePrepared preparation sql).run.Runs trace rest →
      (∀ event ∈ trace, Unexhausted event) →
      ∃ events reached,
        Account (Call.carryOut preparation) (c.statementCall sql).run events reached trace rest ∧
          c.KeepsAccounts sql false Result.metadata events rest := by
  have prepared : ∀ preparation trace rest,
      Raises Unexhausted (·.isExhaustion = false) preparation →
      (c.executePrepared preparation sql).run.Runs trace rest →
      (∀ event ∈ trace, Unexhausted event) →
      ∃ events reached,
        Account (Call.carryOut preparation) (c.statementCall sql).run events reached trace rest ∧
          c.KeepsAccounts sql false Result.metadata events rest := by
    intro preparation trace rest prepares ran told
    obtain ⟨events, reached, account⟩ := ran.account
    exact ⟨events, reached, account, keepsAccounts_of_statementCall prepares account told⟩
  refine ⟨rfl, ?_, ?_, prepared⟩
  · intro trace rest ran told
    obtain ⟨events, reached, account⟩ := ran.account
    have all := told_of_account raises_pure account told
    refine ⟨events, reached, account, Call.account_unprepared account,
      tallied_of_keeps (c.attempts_keep_ledger sql true) account.ran all, ?_⟩
    intro outcome finished
    refine ⟨outcome, ?_, accounted_of_runs (account.complete finished) all⟩
    cases outcome <;> rfl
  · intro trace rest ran told
    obtain ⟨events, reached, account, accounts⟩ :=
      prepared (pure ()) trace rest raises_pure ran told
    exact ⟨events, reached, account, Call.account_unprepared account, accounts⟩

/-- A query whose three attempts all fail, and statements that succeed at the second. -/
theorem submits_at_most_three_times :
    let c : Client := ⟨{ Profile.ofRequired "s3://b/" "r" "s" "d" with retries := 2 }, 1⟩
    let preparation : Work Unit := do let _ ← Work.deletePrefix "s3://b/tmp/"
    let query := (c.execute "SELECT 1").run.play failingAnswers 0
    let statement := (c.executeStatement "SELECT 1").run.play failingAnswers 0
    let prepared := (c.executePrepared preparation "SELECT 1").run.play failingAnswers 0
    starts query.1 = 3 ∧ starts statement.1 = 2 ∧ starts prepared.1 = 2 ∧
      query.2.failure? = some (.retriesExhausted 3 (.service "throttled")) ∧
      (∃ events reached,
        Account (Call.carryOut (pure ())) (c.attempts "SELECT 1" true).run events reached query.1
            query.2 ∧
          query.1 = Call.ownEvents events ∧ c.KeepsAccounts "SELECT 1" true id events query.2) ∧
      (∃ events reached,
        Account (Call.carryOut (pure ())) (c.statementCall "SELECT 1").run events reached
            statement.1 statement.2 ∧
          statement.1 = Call.ownEvents events ∧
            c.KeepsAccounts "SELECT 1" false Result.metadata events statement.2) ∧
      ∃ events reached,
        Account (Call.carryOut preparation) (c.statementCall "SELECT 1").run events reached
            prepared.1 prepared.2 ∧
          c.KeepsAccounts "SELECT 1" false Result.metadata events prepared.2 := by
  intro c preparation query statement prepared
  obtain ⟨_, forQueries, forStatements, forPrepared⟩ := c.submits_at_most_maxAttempts "SELECT 1"
  have prepares : Raises Unexhausted (·.isExhaustion = false) preparation :=
    raises_bind (raises_request rfl fun _ error told same => told error (by cases same; rfl))
      fun _ => raises_pure
  refine ⟨by decide +kernel, by decide +kernel, by decide +kernel, by decide +kernel, ?_, ?_, ?_⟩
  · exact forQueries query.1 query.2 (runs_play _ _ _) (by decide +kernel)
  · exact forStatements statement.1 statement.2 (runs_play _ _ _) (by decide +kernel)
  · exact forPrepared preparation prepared.1 prepared.2 prepares (runs_play _ _ _)
      (by decide +kernel)

end AthenaModels.Client
