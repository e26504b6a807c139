import AthenaModels.Proofs.Client.Attempt
import AthenaModels.Proofs.Client.Overwriting
import AthenaModels.Proofs.Program.Pending

namespace AthenaModels

open Trace

namespace Warehouse

def query? : service.Event → Option String
  | ⟨.start _, .ok id⟩ => some id
  | _ => none

def settles (id : String) : service.Event → Bool
  | ⟨.status looked, .ok status⟩ => looked == id && status.state.isTerminal
  | ⟨.stop stopped, _⟩ => stopped == id
  | _ => false

/-- The submitted queries that may still be running, as far as one can tell from a trace. -/
def running (trace : List service.Event) : List String := pending query? settles trace

def looks (id : String) (trace : List service.Event) : List (Except Error QueryStatus) :=
  trace.filterMap (checkOf? id)

/-- The request would disturb a running query: it submits a statement or deletes files. -/
def Disturbs : Request → Prop
  | .start _ | .deleteObjects _ | .deletePrefix _ => True
  | _ => False

def Skips (id : String) (event : service.Event) : Prop :=
  query? event ≠ some id ∧ checkOf? id event = none ∧ settles id event = false

def Regards (id : String) (event : service.Event) : Prop :=
  query? event = none ∧ ∀ other, other ≠ id → Skips other event

variable {id : String} {reply : Except Error QueryStatus} {trace after : List service.Event}

theorem looks_append (id : String) (before after : List service.Event) :
    looks id (before ++ after) = looks id before ++ looks id after :=
  List.filterMap_append

theorem looks_checked (id : String) (reply : Except Error QueryStatus)
    (trace : List service.Event) : looks id (checked id reply :: trace) = reply :: looks id trace := by
  simp [looks, checkOf?, checked]

theorem lastCheck?_append (before : List service.Event) (last : lastCheck? id after = some reply) :
    lastCheck? id (before ++ after) = some reply := by
  change (looks id after).getLast? = some reply at last
  change (looks id (before ++ after)).getLast? = some reply
  rw [looks_append, List.getLast?_append, last, Option.some_or]

theorem regards_of_skips {event : service.Event} (skips : ∀ id, Skips id event) :
    Regards id event :=
  ⟨Option.eq_none_iff_forall_ne_some.mpr fun other => (skips other).1, fun other _ => skips other⟩

theorem regards_checked (id : String) (reply : Except Error QueryStatus) :
    Regards id (checked id reply) := by
  refine ⟨rfl, fun other different => ⟨nofun, if_neg (Ne.symm different), ?_⟩⟩
  cases reply with
  | error => rfl
  | ok status =>
      have unlike : (id == other) = false := beq_false_of_ne (Ne.symm different)
      change (id == other && _) = false
      rw [unlike, Bool.false_and]

theorem regards_stopped (id : String) (reply : Except Error Unit) :
    Regards id ⟨.stop id, reply⟩ :=
  ⟨rfl, fun _ different => ⟨nofun, rfl, beq_false_of_ne (Ne.symm different)⟩⟩

end Warehouse

namespace Client

open Fallible Program Warehouse

variable (c : Client) {sql id : String} {start failures : Nat} {trace past : List service.Event}

def Hopeless (looks : List (Except Error QueryStatus)) : Prop :=
  (∃ error, looks = [.error error] ∧ error.isRetryable = false) ∨
    (looks.length = c.maxAttempts ∧
      ∀ look ∈ looks, ∃ error, look = .error error ∧ error.isRetryable = true)

/-- The last looks at a query failed, and the client does not look at it again. -/
def GivenUp (id : String) (trace : List service.Event) : Prop :=
  ∃ failures, failures <:+ looks id trace ∧ c.Hopeless failures

def Attentive (trace : List service.Event) : Prop :=
  ∀ id, id ∈ running trace ↔ c.GivenUp id trace

variable {c}

theorem Hopeless.getLast? {looks : List (Except Error QueryStatus)} (hopeless : c.Hopeless looks) :
    ∃ error, looks.getLast? = some (.error error) := by
  rcases hopeless with ⟨error, rfl, _⟩ | ⟨many, all⟩
  · exact ⟨error, rfl⟩
  · have some : looks ≠ [] := List.ne_nil_of_length_pos (many ▸ maxAttempts_pos)
    obtain ⟨error, last, _⟩ := all _ (List.getLast_mem some)
    exact ⟨error, by rw [List.getLast?_eq_some_getLast some, last]⟩

theorem GivenUp.lastCheck? (givenUp : c.GivenUp id trace) :
    ∃ error, lastCheck? id trace = some (.error error) := by
  obtain ⟨failures, ⟨earlier, split⟩, hopeless⟩ := givenUp
  obtain ⟨error, last⟩ := hopeless.getLast?
  refine ⟨error, ?_⟩
  change (looks id trace).getLast? = some (.error error)
  rw [← split, List.getLast?_append, last, Option.some_or]

theorem GivenUp.append (past : List service.Event) (givenUp : c.GivenUp id trace) :
    c.GivenUp id (past ++ trace) := by
  obtain ⟨failures, ⟨earlier, split⟩, hopeless⟩ := givenUp
  refine ⟨failures, ⟨looks id past ++ earlier, ?_⟩, hopeless⟩
  rw [looks_append, List.append_assoc, split]

theorem InTime.skips (inTime : c.InTime start trace) : ∀ event ∈ trace, ∀ id, Skips id event := by
  cases inTime with
  | unlimited => simp
  | early => simp [Skips, query?, checkOf?, settles]

theorem InTime.looks (inTime : c.InTime start trace) : looks id trace = [] :=
  List.filterMap_eq_nil_iff.mpr fun event member => (inTime.skips event member id).2.1

theorem InTime.any_settles (inTime : c.InTime start trace) : trace.any (settles id) = false :=
  List.any_eq_false.mpr fun event member => by simp [(inTime.skips event member id).2.2]

theorem Polled.regards {outcome : Except Error QueryStatus}
    (polled : c.Polled id start failures trace outcome) : ∀ event ∈ trace, Regards id event := by
  have sleeps : ∀ seconds, Regards id ⟨.sleep seconds, ()⟩ := fun _ =>
    regards_of_skips fun _ => ⟨nofun, rfl, rfl⟩
  induction polled with
  | succeeded => exact List.forall_mem_singleton.mpr (regards_checked id _)
  | failed => exact List.forall_mem_singleton.mpr (regards_checked id _)
  | cancelled => exact List.forall_mem_singleton.mpr (regards_checked id _)
  | refused => exact List.forall_mem_singleton.mpr (regards_checked id _)
  | exhausted => exact List.forall_mem_singleton.mpr (regards_checked id _)
  | overdue =>
      simp only [List.forall_mem_cons, List.not_mem_nil, false_imp_iff, implies_true, and_true]
      exact ⟨regards_checked id _, regards_of_skips fun _ => ⟨nofun, rfl, rfl⟩,
        regards_stopped id _⟩
  | again _ _ _ ih =>
      simp only [List.forall_mem_cons]
      exact ⟨regards_checked id _, sleeps _, ih⟩
  | waiting _ inTime _ ih =>
      simp only [List.forall_mem_cons, List.cons_append, List.forall_mem_append]
      exact ⟨regards_checked id _, fun event member => regards_of_skips (inTime.skips event member),
        sleeps _, ih⟩

/-- A query that is over or was stopped was looked at with success the last time. -/
theorem Polled.lastCheck? {outcome : Except Error QueryStatus}
    (polled : c.Polled id start failures trace outcome)
    (settled : trace.any (settles id) = true) :
    ∃ status, lastCheck? id trace = some (.ok status) := by
  have once : ∀ reply, Warehouse.lastCheck? id [checked id reply] = some reply :=
    @lastCheck?_append_checked [] id
  induction polled with
  | @succeeded _ status => exact ⟨status, once _⟩
  | @failed _ status => exact ⟨status, once _⟩
  | @cancelled _ status => exact ⟨status, once _⟩
  | @overdue _ _ _ status =>
      refine ⟨status, ?_⟩
      change (looks id _).getLast? = _
      rw [looks_checked]
      rfl
  | refused => simp [settles, checked] at settled
  | exhausted => simp [settles, checked] at settled
  | again _ _ _ ih =>
      obtain ⟨status, last⟩ := ih (by simpa [settles, checked] using settled)
      exact ⟨status, lastCheck?_append [_, _] last⟩
  | @waiting _ _ clock later _ state inTime _ ih =>
      obtain ⟨status, last⟩ := ih (by
        simpa [settles, checked, state, inTime.any_settles] using settled)
      exact ⟨status, lastCheck?_append (_ :: clock) (lastCheck?_append [_] last)⟩

/-- The looks end with the failures that were too many, those before the first look counted in. -/
theorem Polled.settled_or_hopeless {outcome : Except Error QueryStatus}
    (polled : c.Polled id start failures trace outcome) (few : failures < c.maxAttempts) :
    trace.any (settles id) = true ∨ ∃ earlier last, looks id trace = earlier ++ last ∧
      (c.Hopeless last ∨ (earlier = [] ∧ failures + last.length = c.maxAttempts ∧
        ∀ look ∈ last, ∃ error, look = .error error ∧ error.isRetryable = true)) := by
  -- The failures in a row may have begun before the first of these looks. A look that succeeds
  -- starts the count afresh, and from then on they are all here.
  induction polled with
  | succeeded state => exact .inl (by simp [settles, checked, state, QueryState.isTerminal])
  | failed state => exact .inl (by simp [settles, checked, state, QueryState.isTerminal])
  | cancelled state => exact .inl (by simp [settles, checked, state, QueryState.isTerminal])
  | overdue => exact .inl (by simp [settles])
  | @refused _ error final =>
      exact .inr ⟨[], [.error error], looks_checked id _ [], .inl (.inl ⟨error, rfl, final⟩)⟩
  | @exhausted failures error retryable many =>
      refine .inr ⟨[], [.error error], looks_checked id _ [], .inr ⟨rfl, ?_, ?_⟩⟩
      · exact Nat.le_antisymm few many
      · rw [List.forall_mem_singleton]
        exact ⟨error, rfl, retryable⟩
  | @again failures error trace _ retryable more _ ih =>
      have same : looks id (checked id (.error error) :: ⟨.sleep c.profile.pollInterval, ()⟩ ::
          trace) = .error error :: looks id trace := looks_checked id _ _
      rcases ih more with settled | ⟨earlier, last, split, hopeless | ⟨rfl, many, all⟩⟩
      · exact .inl (by simp [settled])
      · exact .inr ⟨.error error :: earlier, last, by rw [same, split]; rfl, .inl hopeless⟩
      · refine .inr ⟨[], .error error :: last, by rw [same, split]; rfl, .inr ⟨rfl, ?_, ?_⟩⟩
        · rw [List.length_cons]
          omega
        · rw [List.forall_mem_cons]
          exact ⟨⟨error, rfl, retryable⟩, all⟩
  | @waiting failures status clock trace _ state inTime _ ih =>
      have same : looks id (checked id (.ok status) :: clock ++
          ⟨.sleep c.profile.pollInterval, ()⟩ :: trace) = .ok status :: looks id trace := by
        rw [List.cons_append, looks_checked, looks_append, inTime.looks]
        rfl
      rcases ih maxAttempts_pos with settled | ⟨earlier, last, split, hopeless | ⟨rfl, many, all⟩⟩
      · exact .inl (by simp [settled])
      · exact .inr ⟨.ok status :: earlier, last, by rw [same, split]; rfl, .inl hopeless⟩
      · refine .inr ⟨[.ok status], last, by rw [same, split]; rfl, .inl (.inr ⟨?_, all⟩)⟩
        rwa [Nat.zero_add] at many

theorem Polled.settled_or_givenUp {outcome : Except Error QueryStatus}
    (polled : c.Polled id start 0 trace outcome) :
    trace.any (settles id) = true ∨ c.GivenUp id trace := by
  rcases polled.settled_or_hopeless maxAttempts_pos with
    settled | ⟨earlier, last, split, hopeless | ⟨rfl, many, all⟩⟩
  · exact .inl settled
  · exact .inr ⟨last, ⟨earlier, split.symm⟩, hopeless⟩
  · rw [Nat.zero_add] at many
    exact .inr ⟨last, ⟨[], split.symm⟩, .inr ⟨many, all⟩⟩

theorem Polls.regards {outcome : Except Error QueryStatus} (polls : c.Polls id trace outcome) :
    ∀ event ∈ trace, Regards id event := by
  cases polls with
  | unlimited _ polled => exact polled.regards
  | limited _ polled =>
      exact List.forall_mem_cons.mpr
        ⟨regards_of_skips fun _ => ⟨nofun, rfl, rfl⟩, polled.regards⟩

theorem Polls.lastCheck? {outcome : Except Error QueryStatus} (polls : c.Polls id trace outcome)
    (settled : trace.any (settles id) = true) :
    ∃ status, lastCheck? id trace = some (.ok status) := by
  cases polls with
  | unlimited _ polled => exact polled.lastCheck? settled
  | limited _ polled =>
      obtain ⟨status, last⟩ := polled.lastCheck? settled
      exact ⟨status, lastCheck?_append [_] last⟩

theorem Polls.settled_or_givenUp {outcome : Except Error QueryStatus}
    (polls : c.Polls id trace outcome) :
    trace.any (settles id) = true ∨ c.GivenUp id trace := by
  cases polls with
  | unlimited _ polled => exact polled.settled_or_givenUp
  | limited _ polled => exact polled.settled_or_givenUp.imp_right (GivenUp.append [_])

theorem Paged.skips {token : Option String} {outcome : Except Error (List Page)}
    (paged : Paged id token trace outcome) : ∀ event ∈ trace, ∀ other, Skips other event := by
  have page : ∀ token reply other, Skips other ⟨.page id token, reply⟩ := fun _ _ _ =>
    ⟨nofun, rfl, rfl⟩
  induction paged with
  | refused => exact List.forall_mem_singleton.mpr (page _ _)
  | last => exact List.forall_mem_singleton.mpr (page _ _)
  | more _ _ ih => exact List.forall_mem_cons.mpr ⟨page _ _, ih⟩

theorem not_running (unsubmitted : ∀ event ∈ trace, query? event ≠ some id) :
    id ∉ running trace := by
  intro isRunning
  obtain ⟨event, member, same⟩ := exists_of_mem_pending isRunning
  exact unsubmitted event member same

theorem running_iff_append (known : id ∈ running past ↔ c.GivenUp id past)
    (skips : ∀ event ∈ trace, Skips id event) :
    id ∈ running (past ++ trace) ↔ c.GivenUp id (past ++ trace) := by
  have unseen : looks id trace = [] :=
    List.filterMap_eq_nil_iff.mpr fun event member => (skips event member).2.1
  have unsettled : trace.any (settles id) = false :=
    List.any_eq_false.mpr fun event member => by simp [(skips event member).2.2]
  have unsubmitted : id ∉ running trace := not_running fun event member => (skips event member).1
  have same : id ∈ running (past ++ trace) ↔ id ∈ running past := by
    rw [running, mem_pending_append]
    constructor
    · rintro (⟨early, _⟩ | late)
      · exact early
      · exact absurd late unsubmitted
    · exact fun early => .inl ⟨early, unsettled⟩
  rw [same, known, GivenUp, GivenUp, looks_append, unseen, List.append_nil]

theorem Attentive.append (attentive : c.Attentive past)
    (skips : ∀ event ∈ trace, ∀ id, Skips id event) : c.Attentive (past ++ trace) := fun id =>
  running_iff_append (attentive id) fun event member => skips event member id

theorem Attentive.append_event {event : service.Event} (attentive : c.Attentive past)
    (skips : ∀ id, Skips id event) : c.Attentive (past ++ [event]) :=
  attentive.append (List.forall_mem_singleton.mpr skips)

theorem Polls.running_iff {query : QueryRequest} {outcome : Except Error QueryStatus}
    (polls : c.Polls id trace outcome) :
    id ∈ running (past ++ started query (.ok id) :: trace) ↔ trace.any (settles id) = false := by
  have once : id ∉ running trace := by
    apply not_running
    intro event member same
    rw [(polls.regards event member).1] at same
    cases same
  rw [running, mem_pending_append, mem_pending_cons]
  constructor
  · rintro (⟨_, unsettled⟩ | ⟨_, unsettled⟩ | later)
    · exact (Bool.or_eq_false_iff.mp unsettled).2
    · exact unsettled
    · exact absurd later once
  · exact fun unsettled => .inr (.inl ⟨rfl, unsettled⟩)

theorem Polls.givenUp_iff {query : QueryRequest} {outcome : Except Error QueryStatus}
    (polls : c.Polls id trace outcome) :
    c.GivenUp id (past ++ started query (.ok id) :: trace) ↔ trace.any (settles id) = false := by
  constructor
  · intro givenUp
    obtain ⟨error, failed⟩ := givenUp.lastCheck?
    apply Bool.eq_false_iff.mpr
    intro settled
    obtain ⟨status, last⟩ := polls.lastCheck? settled
    have found := lastCheck?_append past (lastCheck?_append [started query (.ok id)] last)
    cases failed.symm.trans found
  · intro unsettled
    rcases polls.settled_or_givenUp with settled | givenUp
    · rw [unsettled] at settled
      cases settled
    · exact (givenUp.append [started query (.ok id)]).append past

theorem Attentive.append_polls {query : QueryRequest} {outcome : Except Error QueryStatus}
    (attentive : c.Attentive past) (polls : c.Polls id trace outcome) :
    c.Attentive (past ++ started query (.ok id) :: trace) := by
  intro other
  -- What is known of the queries before is kept, for these events say nothing about them.
  by_cases same : other = id
  · subst same
    exact polls.running_iff.trans polls.givenUp_iff.symm
  · apply running_iff_append (attentive other)
    intro event member
    rcases List.mem_cons.mp member with rfl | later
    · refine ⟨?_, rfl, rfl⟩
      intro submitted
      cases submitted
      exact same rfl
    · exact (polls.regards event later).2 other same

theorem Attentive.append_attempted {withRows : Bool} {number : Nat}
    {outcome : Except Error Result} (attentive : c.Attentive past)
    (attempted : c.Attempted sql withRows number trace outcome) : c.Attentive (past ++ trace) := by
  cases attempted with
  | refused =>
      apply attentive.append
      simp only [List.forall_mem_cons, List.not_mem_nil, false_imp_iff, implies_true, and_true]
      exact ⟨fun _ => ⟨nofun, rfl, rfl⟩, fun _ => ⟨nofun, rfl, rfl⟩⟩
  | @submitted submittedAt id trace _ attended =>
      have dated : c.Attentive (past ++ [⟨.now, submittedAt⟩]) :=
        attentive.append_event fun _ => ⟨nofun, rfl, rfl⟩
      rw [List.append_cons]
      cases attended with
      | unsuccessful polls => exact dated.append_polls polls
      | executed _ polls => exact dated.append_polls polls
      | fetched _ polls paged =>
          rw [← List.cons_append, ← List.append_assoc]
          exact (dated.append_polls polls).append paged.skips

def minding (c : Client) : Protocol Warehouse.service (List Warehouse.service.Event) :=
  .ofPast fun past request => Disturbs request → c.Attentive past

theorem not_disturbs_of_attends {request : Request} (attends : Attends request) :
    ¬Disturbs request := by
  cases request with
  | start => exact attends.elim
  | deleteObjects => exact attends.elim
  | deletePrefix => exact attends.elim
  | _ => exact False.elim

theorem attempts_mind (c : Client) (sql : String) (withRows : Bool) (attentive : c.Attentive past) :
    (c.attempts sql withRows).run.Keeps
      (Call.guarded c.minding c.Attentive fun _ _ later => c.Attentive later)
      (fun later _ => c.Attentive later) past := by
  refine c.attemptsFrom_keeps_of c.Attentive ?_ ?_ ?_ ?_ attentive
  · intro past attentive
    refine ⟨attentive, ?_⟩
    intro reply later attentive
    cases reply <;> exact attentive
  · intro number past attentive
    apply Call.keeps_own_guarded
    apply c.attempt_keeps_past
    · intro past request attends disturbs
      exact absurd disturbs (not_disturbs_of_attends attends)
    -- The time is asked for between what is known of the past and the submission.
    · intro submittedAt _
      exact attentive.append_event fun _ => ⟨nofun, rfl, rfl⟩
    · intro trace outcome attempted
      have still := attentive.append_attempted attempted
      exact ⟨still, fun _ _ _ => still⟩
  · intro past attentive
    apply Call.keeps_own_guarded
    refine Fallible.keeps_lift.mpr (keeps_request_ofPast.mpr ⟨False.elim, ?_⟩)
    intro slept
    exact attentive.append_event fun _ => ⟨nofun, rfl, rfl⟩
  · intro _ _ _ attentive
    exact attentive

theorem ask_minds {request : Request} (attentive : c.Attentive past)
    (skips : ∀ reply id, Skips id ⟨request, reply⟩) :
    (Work.ask request).Keeps c.minding (fun later _ => c.Attentive later) past :=
  keeps_request_ofPast.mpr ⟨fun _ => attentive, fun reply => attentive.append_event (skips reply)⟩

theorem executePrepared_minds {preparation : Work Unit}
    (prepares : ∀ past, c.Attentive past →
      preparation.run.Keeps c.minding (fun later _ => c.Attentive later) past)
    (attentive : c.Attentive past) :
    (c.executePrepared preparation sql).run.Keeps c.minding (fun later _ => c.Attentive later)
      past := by
  refine Call.keeps_prepared_guarded ?_ prepares
  apply Fallible.keeps_bind.mpr
  apply (c.attempts_mind sql false attentive).mono
  intro past outcome attentive
  cases outcome <;> exact attentive

theorem carryOut_minds (c : Client) (request : Materialization.Request)
    (attentive : c.Attentive past) :
    (c.carryOut request).Keeps c.minding (fun later _ => c.Attentive later) past := by
  have unprepared : ∀ past, c.Attentive past → (pure () : Work Unit).run.Keeps c.minding
      (fun later _ => c.Attentive later) past := fun _ attentive => attentive
  have empties : ∀ location past, c.Attentive past → (Work.ask (.deletePrefix location)).Keeps
      c.minding (fun later _ => c.Attentive later) past := fun _ _ attentive =>
    ask_minds attentive fun _ _ => ⟨nofun, rfl, rfl⟩
  cases request with
  | query sql => exact Call.keeps_prepared_guarded (c.attempts_mind sql true attentive) unprepared
  | statement sql => exact executePrepared_minds unprepared attentive
  | fill sql location =>
      refine executePrepared_minds ?_ attentive
      intro past attentive
      apply Fallible.keeps_bind.mpr
      apply (empties location past attentive).mono
      intro later reply attentive
      cases reply <;> exact attentive
  | deleteObjects uris => exact ask_minds attentive fun _ _ => ⟨nofun, rfl, rfl⟩
  | deletePrefix location => exact empties location past attentive
  | freshSuffix => exact ask_minds attentive fun _ _ => ⟨nofun, rfl, rfl⟩
  | freshUuid => exact ask_minds attentive fun _ _ => ⟨nofun, rfl, rfl⟩

theorem attentive_nil : c.Attentive [] := by
  intro id
  constructor
  · intro isRunning
    cases isRunning
  · intro givenUp
    obtain ⟨error, last⟩ := givenUp.lastCheck?
    cases last

/-- Whenever a run of a model submits a statement or deletes files, the queries that may still be
running are just those that the client gave up after looks at them had failed. -/
theorem disturbs_given_up (c : Client) (model : Model)
    {trace before after : List Warehouse.service.Event} {event : Warehouse.service.Event}
    {rest : Program Warehouse.service (Except Error Summary)}
    (ran : (c.materialize model).run.Runs trace rest) (split : trace = before ++ event :: after)
    (disturbs : Disturbs event.request) (id : String) :
    id ∈ running before ↔ c.GivenUp id before := by
  subst split
  have keeps : (c.materialize model).run.Keeps c.minding (fun later _ => c.Attentive later) [] :=
    keeps_translate_of_invariant (fun request _ => c.carryOut_minds request) attentive_nil
  exact keeps.allowed ran (Protocol.steps_ofPast_iff.mpr rfl) disturbs id

def throttledAnswers : (r : Warehouse.Request) → String → Warehouse.Reply r × String
  | .start query, _ => (.ok query.sql, query.sql)
  | .status id, sql =>
      if id = Sql.insert dayTable (dayTable.staging "suffix") ["row", "day"] then
        (.error (.service "throttled"), sql)
      else (.ok ⟨.succeeded, none, 0, 0, none⟩, sql)
  | request, sql => dayAnswers request sql

def appendModel : Model :=
  { dayModel with table := .default, incremental := .ofStrategy .append }

theorem disturbs_given_up_throttled :
    let c : Client := ⟨{ Profile.ofRequired "s3://b/" "region" "schema" "catalog" with retries := 0 }, 1⟩
    let ran := (c.materialize appendModel).run.play throttledAnswers ""
    let drop := c.requestFor (Sql.dropTable (dayTable.staging "suffix"))
    ∃ before reply after, ran.1 = before ++ started drop reply :: after ∧
      Disturbs (.start drop) ∧ ∀ id, id ∈ running before ↔ c.GivenUp id before := by
  intro c ran drop
  have here : ran.1[17]?.map (·.request) = some (.start drop) := by decide +kernel
  obtain ⟨reply, split⟩ := split_at_request here
  have played := runs_play throttledAnswers (c.materialize appendModel).run ""
  exact ⟨_, reply, _, split, trivial,
    fun id => c.disturbs_given_up appendModel played split trivial id⟩

/-- The looks at the insertion fail once too often; then the staging table that it reads is dropped
and its files are deleted while it may still be running. -/
theorem drops_staging_under_insertion :
    let c : Client := ⟨{ Profile.ofRequired "s3://b/" "region" "schema" "catalog" with retries := 0 }, 1⟩
    let ran := (c.materialize appendModel).run.play throttledAnswers ""
    let staging := dayTable.staging "suffix"
    let insertion := Sql.insert dayTable staging ["row", "day"]
    (∃ before reply after,
      ran.1 = before ++ started (c.requestFor (Sql.dropTable staging)) reply :: after ∧
        running before = [insertion]) ∧
    ∃ before reply after,
      ran.1 = before ++ ⟨.deletePrefix (Materialization.stagingLocation c.profile staging), reply⟩
          :: after ∧ running before = [insertion] := by
  intro c ran staging insertion
  have dropped : ran.1[17]?.map (·.request) =
      some (.start (c.requestFor (Sql.dropTable staging))) := by decide +kernel
  have deleted : ran.1[19]?.map (·.request) =
      some (.deletePrefix (Materialization.stagingLocation c.profile staging)) := by decide +kernel
  obtain ⟨dropReply, dropSplit⟩ := split_at_request dropped
  obtain ⟨deletionReply, deletionSplit⟩ := split_at_request deleted
  exact ⟨⟨_, dropReply, _, dropSplit, by decide +kernel⟩,
    ⟨_, deletionReply, _, deletionSplit, by decide +kernel⟩⟩

end Client
end AthenaModels
