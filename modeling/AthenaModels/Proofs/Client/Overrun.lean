import AthenaModels.Proofs.Client.Abandonment
import AthenaModels.Proofs.Client.Remainder

namespace AthenaModels

open Program

namespace Warehouse

def Stopped (id : String) (trace : List service.Event) : Prop :=
  ∃ reply, ⟨.stop id, reply⟩ ∈ trace

def Seen (id : String) (trace : List service.Event) : Prop :=
  ∃ status, status.state.isTerminal = true ∧ checked id (.ok status) ∈ trace

/-- The clock shows the time, which never goes back. -/
structure Clocked {σ : Type} (answer : (r : Request) → σ → Reply r × σ) (now : σ → Nat) : Prop where
  shows : ∀ state, (answer .clock state).1 = now state
  onward : ∀ request state, now state ≤ now (answer request state).2

variable {id : String} {trace : List service.Event}

theorem Seen.append (before : List service.Event) (seen : Seen id trace) :
    Seen id (before ++ trace) := by
  obtain ⟨status, terminal, member⟩ := seen
  exact ⟨status, terminal, List.mem_append_right before member⟩

theorem of_settles {event : service.Event} (settled : settles id event = true) :
    (∃ status, status.state.isTerminal = true ∧ event = checked id (.ok status)) ∨
      ∃ reply, event = ⟨.stop id, reply⟩ := by
  obtain ⟨request, reply⟩ := event
  cases request with
  | status looked =>
      cases reply with
      | error => cases settled
      | ok status =>
          simp only [settles, Bool.and_eq_true, beq_iff_eq] at settled
          obtain ⟨rfl, terminal⟩ := settled
          exact .inl ⟨status, terminal, rfl⟩
  | stop stopped =>
      simp only [settles, beq_iff_eq] at settled
      subst settled
      exact .inr ⟨reply, rfl⟩
  | _ => cases settled

theorem any_settles_iff (unseen : ¬ Seen id trace) :
    trace.any (settles id) = true ↔ Stopped id trace := by
  rw [List.any_eq_true]
  constructor
  · intro settled
    obtain ⟨event, member, settles⟩ := settled
    rcases of_settles settles with ⟨status, terminal, rfl⟩ | ⟨reply, rfl⟩
    · exact absurd ⟨status, terminal, member⟩ unseen
    · exact ⟨reply, member⟩
  · intro stopped
    obtain ⟨reply, member⟩ := stopped
    exact ⟨_, member, by simp [settles]⟩

section
variable {σ : Type} {answer : (r : Request) → σ → Reply r × σ} {now : σ → Nat}

theorem Clocked.le_stateAfter (clocked : Clocked answer now) (state : σ)
    (trace : List service.Event) : now state ≤ now (stateAfter answer state trace) := by
  refine @stateAfter_of _ σ answer (fun later => now state ≤ now later) ?_ state (Nat.le_refl _) trace
  intro request later soFar
  exact Nat.le_trans soFar (clocked.onward request later)

theorem Clocked.eq_now (clocked : Clocked answer now) {state : σ} {shown : Nat}
    (answered : AnsweredBy (S := service) answer state (⟨.clock, shown⟩ :: trace)) : shown = now state :=
  answered.1.trans (clocked.shows state)

end

end Warehouse

namespace Client

open Fallible Warehouse

variable {c : Client} {sql id : String} {start failures : Nat} {trace : List service.Event}

theorem Polled.seen {outcome : Except Error QueryStatus}
    (polled : c.Polled id start failures trace outcome)
    (retried : ∀ error, outcome = .error error → error.isRetryable = true) : Seen id trace := by
  induction polled with
  | @succeeded _ status state => exact ⟨status, by rw [state]; rfl, by simp⟩
  | @failed _ status state => exact ⟨status, by rw [state]; rfl, by simp⟩
  | @cancelled _ status state => exact ⟨status, by rw [state]; rfl, by simp⟩
  | overdue => cases retried _ rfl
  | refused final => cases final.symm.trans (retried _ rfl)
  | exhausted => cases retried _ rfl
  | again _ _ _ ih => exact (ih retried).append [_, _]
  | @waiting _ status looks _ _ _ _ _ ih =>
      exact ((ih retried).append [_]).append (_ :: looks)

theorem Polled.late_of_stopped {outcome : Except Error QueryStatus}
    (polled : c.Polled id start failures trace outcome) (stopped : Stopped id trace) :
    ∃ limit last earlier later, c.profile.timeout = some limit ∧
      trace = earlier ++ ⟨.clock, last⟩ :: later ∧ limit * Nat.pow 10 9 ≤ last - start := by
  obtain ⟨reply, member⟩ := stopped
  induction polled with
  | @overdue _ limit now status _ _ limited late =>
      exact ⟨limit, now, [_], [_], limited, rfl, late⟩
  | again _ _ _ ih =>
      obtain ⟨limit, last, earlier, later, limited, rfl, late⟩ :=
        ih (by simpa [checked] using member)
      exact ⟨limit, last, _ :: _ :: earlier, later, limited, rfl, late⟩
  | @waiting _ status looks _ _ state inTime _ ih =>
      have quiet : ⟨.stop id, reply⟩ ∉ looks := by
        cases inTime <;> simp
      obtain ⟨limit, last, earlier, later, limited, rfl, late⟩ :=
        ih (by simpa [checked, quiet] using member)
      exact ⟨limit, last, checked id (.ok status) :: looks ++ ⟨.sleep c.profile.pollInterval, ()⟩ :: earlier, later,
        limited, by simp, late⟩
  | _ => simp [checked] at member

theorem Polls.late_of_stopped {outcome : Except Error QueryStatus} (polls : c.Polls id trace outcome)
    (stopped : Stopped id trace) :
    ∃ limit start last earlier later, c.profile.timeout = some limit ∧
      trace = ⟨.clock, start⟩ :: earlier ++ ⟨.clock, last⟩ :: later ∧
      limit * Nat.pow 10 9 ≤ last - start := by
  cases polls with
  | unlimited free polled =>
      obtain ⟨limit, _, _, _, limited, _⟩ := polled.late_of_stopped stopped
      rw [free] at limited
      cases limited
  | limited _ polled =>
      obtain ⟨reply, member⟩ := stopped
      obtain ⟨limit, last, earlier, later, limited, rfl, late⟩ :=
        polled.late_of_stopped ⟨reply, by simpa using member⟩
      exact ⟨limit, _, last, earlier, later, limited, rfl, late⟩

theorem Polls.seen {outcome : Except Error QueryStatus} (polls : c.Polls id trace outcome)
    (retried : ∀ error, outcome = .error error → error.isRetryable = true) : Seen id trace := by
  cases polls with
  | unlimited _ polled => exact polled.seen retried
  | limited _ polled => exact (polled.seen retried).append [_]

theorem Polls.stopped_iff {outcome : Except Error QueryStatus} (polls : c.Polls id trace outcome)
    (unseen : ¬ Seen id trace) : Stopped id trace ↔ ¬ c.GivenUp id trace := by
  rw [← any_settles_iff unseen]
  constructor
  · intro settled givenUp
    obtain ⟨status, last⟩ := polls.lastCheck? settled
    obtain ⟨error, failed⟩ := givenUp.lastCheck?
    cases failed.symm.trans last
  · exact polls.settled_or_givenUp.resolve_right

theorem Attended.seen_or_polls {withRows : Bool} {number : Nat} {submittedAt : Timestamp}
    {outcome : Except Error Result}
    (attended : c.Attended withRows number submittedAt id trace outcome) :
    Seen id trace ∨ (Final outcome ∧ ∃ error, c.Polls id trace (.error error)) := by
  cases attended with
  | @unsuccessful _ error polls =>
      cases retryable : error.isRetryable with
      | true =>
          refine .inl (polls.seen ?_)
          intro other same
          cases same
          exact retryable
      | false =>
          refine .inr ⟨?_, error, polls⟩
          intro other same
          cases same
          exact retryable
  | executed _ polls => exact .inl (polls.seen nofun)
  | fetched _ polls _ =>
      obtain ⟨status, terminal, member⟩ := polls.seen nofun
      exact .inl ⟨status, terminal, List.mem_append_left _ member⟩

section
variable {σ : Type} {answer : (r : Request) → σ → Reply r × σ} {now : σ → Nat} {state : σ}

/-- The time that passed between two moments of a run is not less than a query may take. -/
def Overran (c : Client) (answer : (r : Request) → σ → Reply r × σ) (now : σ → Nat) (state : σ)
    (before after : List service.Event) : Prop :=
  ∃ limit, c.profile.timeout = some limit ∧ limit * Nat.pow 10 9 ≤
    now (stateAfter answer state (before ++ after)) - now (stateAfter answer state before)

/-- A query that was not seen over was stopped or given up; it is stopped only when it is late. -/
def StopsUnlessGivenUp (c : Client) (answer : (r : Request) → σ → Reply r × σ) (now : σ → Nat)
    (state : σ) (trace : List service.Event) : Prop :=
  ∀ before query id after, trace = before ++ started query (.ok id) :: after → ¬ Seen id after →
    (Stopped id after ↔ ¬ c.GivenUp id after) ∧
      (Stopped id after →
        c.Overran answer now state (before ++ [started query (.ok id)]) after)

theorem overran_of_stopped (clocked : Clocked answer now) {outcome : Except Error QueryStatus}
    (polls : c.Polls id trace outcome) (stopped : Stopped id trace) {before : List service.Event}
    (answered : AnsweredBy answer state (before ++ trace)) :
    c.Overran answer now state before trace := by
  obtain ⟨limit, start, last, earlier, later, limited, rfl, late⟩ := polls.late_of_stopped stopped
  refine ⟨limit, limited, Nat.le_trans late ?_⟩
  have began : start = now (stateAfter answer state before) :=
    clocked.eq_now answered.of_append
  have looked : last = now (stateAfter answer state (before ++ ⟨.clock, start⟩ :: earlier)) := by
    rw [← List.append_assoc] at answered
    exact clocked.eq_now answered.of_append
  have onward := clocked.le_stateAfter
    (stateAfter answer state (before ++ ⟨.clock, start⟩ :: earlier)) (⟨.clock, last⟩ :: later)
  rw [← stateAfter_append, ← looked, List.append_assoc] at onward
  rw [← began]
  exact Nat.sub_le_sub_right onward start

theorem stops_of_runs (clocked : Clocked answer now) {withRows : Bool} {last : Except Error Result}
    (ran : Runs (c.attemptsAlone sql withRows).run trace (.done last))
    (answered : AnsweredBy answer state trace) : c.StopsUnlessGivenUp answer now state trace := by
  intro before query id after split unseen
  subst split
  rw [List.append_cons] at ran answered
  obtain ⟨left, submitted, later⟩ := ran.split
  obtain ⟨number, submittedAt, leads⟩ := (c.leaves_started sql withRows query id).of_runs submitted
  obtain ⟨part, more, outcome, rfl, attended, ends⟩ := leads.begins after last later
  -- An attempt that leaves its query unseen is final, so nothing comes after its looks.
  rcases (c.attended_of_runs attended).seen_or_polls with ⟨status, terminal, member⟩ | ⟨final, _, polls⟩
  · exact absurd ⟨status, terminal, List.mem_append_left more member⟩ unseen
  · obtain ⟨rfl, _⟩ := ends final
    rw [List.append_nil] at unseen answered ⊢
    exact ⟨polls.stopped_iff unseen, fun stopped => overran_of_stopped clocked polls stopped answered⟩

/-- When a call fails, each of its queries was seen over, or stopped because it was late, or given
up; one that was given up is not stopped, however late it is. -/
theorem stops_unless_given_up (c : Client) (sql : String) (clocked : Clocked answer now)
    (state : σ) :
    (∀ trace error, (c.execute sql).run.play answer state = (trace, .done (.error error)) →
      c.StopsUnlessGivenUp answer now state trace) ∧
    ∀ trace error, (c.executeStatement sql).run.play answer state = (trace, .done (.error error)) →
      c.StopsUnlessGivenUp answer now state trace := by
  constructor
  · intro trace error played
    have ran := runs_play answer (c.execute sql).run state
    have answered := answeredBy_play answer (c.execute sql).run state
    rw [played] at ran answered
    exact stops_of_runs clocked ran answered
  · intro trace error played
    have ran := runs_play answer (c.executeStatement sql).run state
    have answered := answeredBy_play answer (c.executeStatement sql).run state
    rw [played] at ran answered
    exact stops_of_runs clocked (runs_attemptsAlone_of_executeStatement ran) answered

end

/-- Each look takes two seconds. -/
def slowAnswers (look : Except Error QueryStatus) : (r : Request) → Nat → Reply r × Nat
  | .status _, time => (look, time + 2 * Nat.pow 10 9)
  | .clock, time => (time, time)
  | request, time => ((failingAnswers request 0).1, time)

theorem clocked_slowAnswers (look : Except Error QueryStatus) :
    Clocked (slowAnswers look) fun time => time where
  shows _ := rfl
  onward request time := by
    cases request with
    | status => exact Nat.le_add_right time _
    | _ => exact Nat.le_refl time

def hastyClient : Client :=
  ⟨{ Profile.ofRequired "s3://b/" "r" "s" "d" with retries := 0, timeout := some 1 }, 3⟩

theorem stops_unless_given_up_running :
    let answer := slowAnswers (.ok ⟨.running, none, 0, 0, none⟩)
    let query := (hastyClient.execute "SELECT 1").run.play answer 0
    let statement := (hastyClient.executeStatement "SELECT 1").run.play answer 0
    query.2 = .done (.error (.queryTimeout "first" 1)) ∧ Stopped "first" query.1 ∧
      hastyClient.StopsUnlessGivenUp answer (fun time => time) 0 query.1 ∧
      statement.2 = .done (.error (.queryTimeout "first" 1)) ∧ Stopped "first" statement.1 ∧
      hastyClient.StopsUnlessGivenUp answer (fun time => time) 0 statement.1 := by
  intro answer query statement
  have clocked : Clocked answer fun time => time := clocked_slowAnswers _
  obtain ⟨queries, statements⟩ := hastyClient.stops_unless_given_up "SELECT 1" clocked 0
  have stopped : ∀ events : List service.Event, events[5]?.map (·.request) = some (.stop "first") →
      Stopped "first" events := fun _ => exists_mem_of_request
  exact ⟨rfl, stopped _ rfl, queries _ _ rfl, rfl, stopped _ rfl, statements _ _ rfl⟩

/-- The only look at a query takes longer than the query may, and fails. The query is given up and
may go on running. -/
theorem leaves_overdue_running :
    let answer := slowAnswers (.error (.service "throttled"))
    let query := hastyClient.requestFor "SELECT 1"
    hastyClient.profile.validate = .ok () ∧ Clocked answer (fun time => time) ∧
      ∃ before after error,
        (hastyClient.execute "SELECT 1").run.play answer 0 =
          (before ++ started query (.ok "first") :: after, .done (.error error)) ∧
        starts after = 0 ∧ ¬ Seen "first" after ∧
        hastyClient.Overran answer (fun time => time) 0
          (before ++ [started query (.ok "first")]) after ∧
        ¬ Stopped "first" after := by
  intro answer query
  refine ⟨by decide +kernel, clocked_slowAnswers _, [⟨.now, (⟨0, 0⟩ : Timestamp)⟩],
    [⟨.clock, (0 : Nat)⟩, checked "first" (.error (.service "throttled"))],
    .retriesExhausted 1 (.service "throttled"), rfl, rfl, ?_, ⟨1, rfl, by decide⟩, ?_⟩
  · intro seen
    obtain ⟨status, _, member⟩ := seen
    simp [checked] at member
  · intro stopped
    obtain ⟨reply, member⟩ := stopped
    simp [checked] at member

end Client
end AthenaModels
