import AthenaModels.Proofs.Client.Creation
import AthenaModels.Proofs.Client.Remainder

namespace AthenaModels

open Warehouse

/-- What the looks at a query are answered one after the other, what the clock shows before the
first and after each of them, and what is answered to anything else. -/
structure Watch where
  look : Nat → Except Error QueryStatus
  time : Nat → Nat
  other : (r : Request) → Reply r

namespace Watch

variable {watch : Watch} {n i : Nat}

/-- The state is the number of looks. -/
def answer (watch : Watch) : (r : Request) → Nat → Reply r × Nat
  | .status _, looks => (watch.look looks, looks + 1)
  | .clock, looks => (watch.time looks, looks)
  | request, looks => (watch.other request, looks)

def failures (watch : Watch) : Nat → Nat
  | 0 => 0
  | n + 1 =>
      match watch.look n with
      | .error _ => watch.failures n + 1
      | .ok _ => 0

theorem failures_le (watch : Watch) (n : Nat) : watch.failures n ≤ n := by
  induction n with
  | zero => exact Nat.le_refl 0
  | succ n ih =>
      rw [failures]
      split <;> omega

theorem failed_of_failures (before : i < n) (recent : n ≤ i + watch.failures n) :
    ∃ error, watch.look i = .error error := by
  induction n with
  | zero => omega
  | succ n ih =>
      rw [failures] at recent
      cases look : watch.look n with
      | ok =>
          simp only [look] at recent
          omega
      | error error =>
          simp only [look] at recent
          by_cases last : i = n
          · exact ⟨error, last ▸ look⟩
          · exact ih (by omega) (by omega)

theorem answered_of_failures (fewer : watch.failures n < n) :
    ∃ status, watch.look (n - watch.failures n - 1) = .ok status := by
  induction n with
  | zero => omega
  | succ n ih =>
      rw [failures] at fewer ⊢
      cases look : watch.look n with
      | ok status =>
          simp only
          exact ⟨status, look⟩
      | error error =>
          simp only [look] at fewer ⊢
          obtain ⟨status, answered⟩ := ih (by omega)
          exact ⟨status, by rwa [Nat.add_sub_add_right]⟩

end Watch

namespace Client

open Fallible Program

variable {c : Client} {id : String} {watch : Watch} {n patience : Nat}
  {calls : List Request} {outcome : Except Error QueryStatus}

/-- The looks come to an end with this one: the calls that follow it, and the outcome. -/
inductive Decides (c : Client) (id : String) (watch : Watch) (n : Nat) :
    List Request → Except Error QueryStatus → Prop where
  | succeeded {status : QueryStatus} (answered : watch.look n = .ok status)
      (state : status.state = .succeeded) : Decides c id watch n [] (.ok status)
  | failed {status : QueryStatus} (answered : watch.look n = .ok status)
      (state : status.state = .failed) :
      Decides c id watch n [] (.error (.queryFailed id (status.reason.getD "unknown")))
  | cancelled {status : QueryStatus} (answered : watch.look n = .ok status)
      (state : status.state = .cancelled) : Decides c id watch n [] (.error (.queryCancelled id))
  | overdue {status : QueryStatus} {limit : Nat} (answered : watch.look n = .ok status)
      (state : status.state = .queued ∨ status.state = .running)
      (limited : c.profile.timeout = some limit)
      (late : limit * Nat.pow 10 9 ≤ watch.time (n + 1) - watch.time 0) :
      Decides c id watch n [.stop id] (.error (.queryTimeout id limit))
  | refused {error : Error} (answered : watch.look n = .error error)
      (final : error.isRetryable = false) : Decides c id watch n [] (.error error)
  | exhausted {error : Error} (answered : watch.look n = .error error)
      (many : c.maxAttempts ≤ n + 1)
      (failed : ∀ i ≤ n, n < i + c.maxAttempts →
        ∃ error, watch.look i = .error error ∧ error.isRetryable = true) :
      Decides c id watch n [] (.error (.retriesExhausted c.maxAttempts error))

def Undecided (c : Client) (id : String) (watch : Watch) (n : Nat) : Prop :=
  ∀ calls outcome, ¬ c.Decides id watch n calls outcome

def callsIn (trace : List service.Event) : List Request :=
  (trace.map (·.request)).filter isCall

theorem callsIn_append (before after : List service.Event) :
    callsIn (before ++ after) = callsIn before ++ callsIn after := by
  simp [callsIn]

theorem Undecided.retryable {error : Error} (undecided : c.Undecided id watch n)
    (failed : watch.look n = .error error) : error.isRetryable = true := by
  cases retryable : error.isRetryable with
  | true => rfl
  | false => exact absurd (.refused failed retryable) (undecided _ _)

theorem decides_exhausted {error : Error} (before : ∀ i < n, c.Undecided id watch i)
    (failed : watch.look n = .error error) (retryable : error.isRetryable = true)
    (many : c.maxAttempts ≤ watch.failures n + 1) :
    c.Decides id watch n [] (.error (.retriesExhausted c.maxAttempts error)) := by
  have bound := watch.failures_le n
  refine .exhausted failed (by omega) ?_
  intro i upTo recent
  by_cases last : i = n
  · exact ⟨error, last ▸ failed, retryable⟩
  · obtain ⟨earlier, look⟩ := watch.failed_of_failures (i := i) (n := n) (by omega) (by omega)
    exact ⟨earlier, look, (before i (by omega)).retryable look⟩

theorem undecided_of_failed {error : Error} (failed : watch.look n = .error error)
    (retryable : error.isRetryable = true)
    (few : n + 1 < c.maxAttempts ∨
      ∃ i ≤ n, n < i + c.maxAttempts ∧ ∃ status, watch.look i = .ok status) :
    c.Undecided id watch n := by
  intro calls outcome decides
  cases decides with
  | refused answered final => simp_all
  | exhausted _ many all =>
      rcases few with few | ⟨i, upTo, recent, status, answered⟩
      · omega
      · obtain ⟨error, look, _⟩ := all i upTo recent
        simp_all
  | _ => simp_all

theorem undecided_of_running {status : QueryStatus} (answered : watch.look n = .ok status)
    (state : status.state = .running)
    (early : ∀ limit, c.profile.timeout = some limit →
      watch.time (n + 1) - watch.time 0 < limit * Nat.pow 10 9) : c.Undecided id watch n := by
  intro calls outcome decides
  cases decides with
  | overdue _ _ limited late => exact absurd late (Nat.not_le_of_lt (early _ limited))
  | _ => simp_all

theorem failures_lt (before : ∀ i < n, c.Undecided id watch i) :
    watch.failures n < c.maxAttempts := by
  induction n with
  | zero => exact maxAttempts_pos
  | succ n ih =>
      rw [Watch.failures]
      cases look : watch.look n with
      | ok => exact maxAttempts_pos
      | error error =>
          have undecided := before n (Nat.lt_succ_self n)
          have earlier : ∀ i < n, c.Undecided id watch i := fun i less =>
            before i (Nat.lt_succ_of_lt less)
          by_contra many
          have exhausted := decides_exhausted earlier look (undecided.retryable look)
            (Nat.le_of_not_lt many)
          exact undecided _ _ exhausted

theorem failures_of_exhausted (many : c.maxAttempts ≤ n + 1)
    (failed : ∀ i ≤ n, n < i + c.maxAttempts →
      ∃ error, watch.look i = .error error ∧ error.isRetryable = true) :
    c.maxAttempts ≤ watch.failures n + 1 := by
  by_contra few
  have bound := watch.failures_le n
  -- The look before the counted failures was answered, and it is among those that failed.
  obtain ⟨status, answered⟩ := watch.answered_of_failures (n := n) (by omega)
  obtain ⟨error, look, _⟩ := failed (n - watch.failures n - 1) (by omega) (by omega)
  rw [answered] at look
  cases look

def afterLook (c : Client) (id : String) (start patience failures : Nat) :
    Except Error QueryStatus → Work QueryStatus
  | .error error =>
      if !error.isRetryable then throw error
      else if c.maxAttempts ≤ failures + 1 then throw (.retriesExhausted (failures + 1) error)
      else do
        c.pause
        c.pollFrom id start patience (failures + 1)
  | .ok status =>
      match status.state with
      | .succeeded => return status
      | .failed => throw (.queryFailed id (status.reason.getD "unknown"))
      | .cancelled => throw (.queryCancelled id)
      | .queued | .running => do
          c.stopOverdue id start
          c.pause
          c.pollFrom id start patience 0

theorem pollFrom_succ (c : Client) (id : String) (start patience failures : Nat) :
    (c.pollFrom id start (patience + 1) failures).run =
      .ask (.status id) fun reply => (c.afterLook id start patience failures reply).run := rfl

theorem afterLook_unfinished {start failures : Nat} {status : QueryStatus}
    (state : status.state = .queued ∨ status.state = .running) :
    c.afterLook id start patience failures (.ok status) = (do
      c.stopOverdue id start
      c.pause
      c.pollFrom id start patience 0) := by
  rcases state with state | state
  · rw [afterLook, state]
  · rw [afterLook, state]

section
variable {start limit : Nat}

theorem runs_overdue {now : Nat} {stopped : Except Error Unit}
    (limited : c.profile.timeout = some limit) (late : limit * Nat.pow 10 9 ≤ now - start) :
    Runs (c.stopOverdue id start).run [⟨.clock, now⟩, ⟨.stop id, stopped⟩]
      (.done (.error (.queryTimeout id limit))) := by
  have shows : Runs Work.clock.run [⟨.clock, now⟩] (.done (.ok now)) := .answer (.stop _)
  have stops : Runs (Work.stop id).run [⟨.stop id, stopped⟩] (.done stopped) := .answer (.stop _)
  rw [stopOverdue, limited]
  apply runs_bind_ok shows
  rw [if_pos late]
  exact runs_outcome_bind stops

theorem runs_early {now : Nat} (limited : c.profile.timeout = some limit)
    (early : now - start < limit * Nat.pow 10 9) :
    Runs (c.stopOverdue id start).run [⟨.clock, now⟩] (.done (.ok ())) := by
  have shows : Runs Work.clock.run [⟨.clock, now⟩] (.done (.ok now)) := .answer (.stop _)
  rw [stopOverdue, limited]
  apply runs_bind_ok shows
  rw [if_neg (Nat.not_le_of_lt early)]
  exact .stop _

theorem answeredBy_early (id : String)
    (inTime : ∀ limit, c.profile.timeout = some limit →
      watch.time n - start < limit * Nat.pow 10 9) :
    ∃ seen, AnsweredBy watch.answer n seen ∧ stateAfter watch.answer n seen = n ∧ callsIn seen = [] ∧
      Runs (c.stopOverdue id start).run seen (.done (.ok ())) := by
  cases limited : c.profile.timeout with
  | none =>
      refine ⟨[], trivial, rfl, rfl, ?_⟩
      rw [stopOverdue, limited]
      exact .stop _
  | some limit =>
      exact ⟨[⟨.clock, watch.time n⟩], ⟨rfl, trivial⟩, rfl, rfl,
        runs_early limited (inTime limit limited)⟩

theorem inTime_of_undecided {status : QueryStatus} (undecided : c.Undecided id watch n)
    (answered : watch.look n = .ok status) (state : status.state = .queued ∨ status.state = .running)
    (limited : c.profile.timeout = some limit) :
    watch.time (n + 1) - watch.time 0 < limit * Nat.pow 10 9 := by
  by_contra late
  exact undecided _ _ (.overdue answered state limited (Nat.le_of_not_lt late))

end

section
variable {start : Nat}

theorem runs_afterLook (c : Client) (id : String) (start patience failures : Nat)
    {reply : Except Error QueryStatus} {trace : List service.Event}
    {rest : Program service (Except Error QueryStatus)}
    (after : Runs (c.afterLook id start patience failures reply).run trace rest) :
    Runs (c.pollFrom id start (patience + 1) failures).run (⟨.status id, reply⟩ :: trace) rest := by
  rw [pollFrom_succ]
  exact .answer after

theorem runs_pause {p : Work QueryStatus} :
    Runs (do c.pause; p : Work QueryStatus).run [⟨.sleep c.profile.pollInterval, ()⟩] p.run :=
  .answer (.stop _)

theorem runs_undecided (started : c.profile.timeout.isSome = true → start = watch.time 0)
    (before : ∀ i ≤ n, c.Undecided id watch i) (patience : Nat) :
    ∃ seen, AnsweredBy watch.answer n seen ∧ stateAfter watch.answer n seen = n + 1 ∧
      callsIn seen = [.status id] ∧
      Runs (c.pollFrom id start (patience + 1) (watch.failures n)).run seen
        (c.pollFrom id start patience (watch.failures (n + 1))).run := by
  have undecided := before n (Nat.le_refl n)
  have earlier : ∀ i < n, c.Undecided id watch i := fun i less => before i (Nat.le_of_lt less)
  cases look : watch.look n with
  | error error =>
      have retryable := undecided.retryable look
      have few : ¬ c.maxAttempts ≤ watch.failures n + 1 := fun many =>
        undecided _ _ (decides_exhausted earlier look retryable many)
      refine ⟨[⟨.status id, watch.look n⟩, ⟨.sleep c.profile.pollInterval, ()⟩], ?_, ?_, ?_, ?_⟩
      · simp [AnsweredBy, Watch.answer]
      · rfl
      · rfl
      · apply runs_afterLook
        rw [look, afterLook, retryable]
        simp only [Bool.not_true, Bool.false_eq_true, if_false, few]
        rw [Watch.failures, look]
        exact runs_pause
  | ok status =>
      have unfinished : status.state = .queued ∨ status.state = .running := by
        cases state : status.state with
        | queued => exact .inl rfl
        | running => exact .inr rfl
        | succeeded => exact absurd (.succeeded look state) (undecided _ _)
        | failed => exact absurd (.failed look state) (undecided _ _)
        | cancelled => exact absurd (.cancelled look state) (undecided _ _)
      have inTime : ∀ limit, c.profile.timeout = some limit →
          watch.time (n + 1) - start < limit * Nat.pow 10 9 := by
        intro limit limited
        rw [started (by rw [limited]; rfl)]
        exact inTime_of_undecided undecided look unfinished limited
      obtain ⟨seen, told, after, quiet, ran⟩ := answeredBy_early id inTime
      refine ⟨⟨.status id, watch.look n⟩ :: (seen ++ [⟨.sleep c.profile.pollInterval, ()⟩]),
        ⟨rfl, told.append ⟨rfl, trivial⟩⟩, ?_, ?_, ?_⟩
      · rw [stateAfter, List.foldl_cons, List.foldl_append]
        exact after
      · change .status id :: callsIn (seen ++ [_]) = _
        rw [callsIn_append, quiet]
        rfl
      · apply runs_afterLook
        rw [Watch.failures, look, afterLook_unfinished unfinished]
        exact runs_bind_ok ran runs_pause

theorem runs_at_once {patience : Nat}
    (ends : (c.afterLook id start patience (watch.failures n) (watch.look n)).run = .done outcome) :
    ∃ seen, AnsweredBy watch.answer n seen ∧ callsIn seen = [.status id] ∧
      Runs (c.pollFrom id start (patience + 1) (watch.failures n)).run seen (.done outcome) := by
  refine ⟨[⟨.status id, watch.look n⟩], ⟨rfl, trivial⟩, rfl, runs_afterLook _ _ _ _ _ ?_⟩
  rw [ends]
  exact .stop _

theorem runs_decided (started : c.profile.timeout.isSome = true → start = watch.time 0)
    (before : ∀ i < n, c.Undecided id watch i) (decides : c.Decides id watch n calls outcome)
    (patience : Nat) :
    ∃ seen, AnsweredBy watch.answer n seen ∧ callsIn seen = .status id :: calls ∧
      Runs (c.pollFrom id start (patience + 1) (watch.failures n)).run seen (.done outcome) := by
  cases decides with
  | succeeded answered state | failed answered state | cancelled answered state =>
      apply runs_at_once
      rw [answered, afterLook, state]
      rfl
  | @overdue status limit answered state limited late =>
      refine ⟨[⟨.status id, watch.look n⟩, ⟨.clock, watch.time (n + 1)⟩,
        ⟨.stop id, watch.other (.stop id)⟩], ⟨rfl, rfl, rfl, trivial⟩, rfl,
        runs_afterLook _ _ _ _ _ ?_⟩
      rw [answered, afterLook_unfinished state]
      rw [← started (by rw [limited]; rfl)] at late
      exact runs_bind_error (runs_overdue limited late)
  | refused answered final =>
      apply runs_at_once
      rw [answered, afterLook, final]
      rfl
  | @exhausted error answered many failed =>
      -- The failures in a row are exactly as many as may be: one fewer did not decide.
      have enough : c.maxAttempts ≤ watch.failures n + 1 := failures_of_exhausted many failed
      have fewer := failures_lt before
      have all : watch.failures n + 1 = c.maxAttempts := by omega
      obtain ⟨other, look, retryable⟩ := failed n (Nat.le_refl n) (by have := c.maxAttempts_pos; omega)
      rw [answered] at look
      cases look
      apply runs_at_once
      rw [answered, afterLook, retryable]
      simp only [all, Nat.le_refl]
      rfl

theorem runs_undecided_all (started : c.profile.timeout.isSome = true → start = watch.time 0)
    (undecided : ∀ i < n, c.Undecided id watch i) (patience : Nat) :
    ∃ seen, AnsweredBy watch.answer 0 seen ∧ stateAfter watch.answer 0 seen = n ∧
      callsIn seen = List.replicate n (.status id) ∧
      Runs (c.pollFrom id start (n + patience) 0).run seen
        (c.pollFrom id start patience (watch.failures n)).run := by
  induction n generalizing patience with
  | zero =>
      rw [Nat.zero_add]
      exact ⟨[], trivial, rfl, rfl, .stop _⟩
  | succ n ih =>
      obtain ⟨seen, told, after, calls, ran⟩ :=
        ih (fun i less => undecided i (Nat.lt_succ_of_lt less)) (patience + 1)
      obtain ⟨look, answered, next, call, later⟩ :=
        runs_undecided started (fun i upTo => undecided i (Nat.lt_succ_of_le upTo)) patience
      rw [← after] at answered
      refine ⟨seen ++ look, told.append answered, ?_, ?_, ?_⟩
      · rw [stateAfter_append, after, next]
      · rw [callsIn_append, calls, call, List.replicate_succ']
      · rw [Nat.add_right_comm, Nat.add_assoc]
        exact ran.append later

end

theorem runs_pollFrom (c : Client) (id : String) (watch : Watch) :
    ∃ seen start, AnsweredBy watch.answer 0 seen ∧ stateAfter watch.answer 0 seen = 0 ∧
      callsIn seen = [] ∧ (c.profile.timeout.isSome = true → start = watch.time 0) ∧
      Runs (c.poll id).run seen (c.pollFrom id start c.patience 0).run := by
  rw [poll]
  cases c.profile.timeout with
  | none => exact ⟨[], 0, trivial, rfl, rfl, nofun, .stop _⟩
  | some limit =>
      refine ⟨[⟨.clock, watch.time 0⟩], watch.time 0, ⟨rfl, trivial⟩, rfl, rfl, fun _ => rfl, ?_⟩
      exact .answer (.stop _)

/-- The looks at a query stop at the first one that decides, with its calls and its outcome. -/
structure StopsAtFirst (c : Client) (id : String) (watch : Watch)
    (ran : List service.Event × Program service (Except Error QueryStatus)) : Prop where
  decided : ∀ n calls outcome, n < c.patience → (∀ i < n, c.Undecided id watch i) →
    c.Decides id watch n calls outcome →
      ran.2 = .done outcome ∧ callsIn ran.1 = List.replicate (n + 1) (.status id) ++ calls
  undecided : (∀ i < c.patience, c.Undecided id watch i) →
    ran.2 = .exhausted ∧ callsIn ran.1 = List.replicate c.patience (.status id)

theorem poll_stops (c : Client) (id : String) (watch : Watch) :
    c.StopsAtFirst id watch ((c.poll id).run.play watch.answer 0) := by
  obtain ⟨begun, start, told, none, quiet, started, ran⟩ := c.runs_pollFrom id watch
  constructor
  · intro n calls outcome less earlier decides
    obtain ⟨patience, enough⟩ : ∃ patience, c.patience = n + (patience + 1) :=
      ⟨c.patience - n - 1, by omega⟩
    obtain ⟨seen, answered, after, looks, undecided⟩ :=
      runs_undecided_all started earlier (patience + 1)
    obtain ⟨last, ended, stops, decided⟩ := runs_decided started earlier decides patience
    rw [← after] at ended
    have all := answered.append ended
    rw [← none] at all
    rw [enough] at ran
    rw [(ran.append (undecided.append decided)).play_eq (told.append all)]
    simp [play, callsIn_append, quiet, looks, stops, List.replicate_succ']
  · intro earlier
    obtain ⟨seen, answered, after, looks, undecided⟩ := runs_undecided_all started earlier 0
    rw [← none] at answered
    rw [(ran.append undecided).play_eq (told.append answered)]
    simp [pollFrom, Fallible.exhausted, play, callsIn_append, quiet, looks]

theorem ends_of_timeout {sql : String} {before looks after : List service.Event}
    {query : QueryRequest} {late : String} {limit : Nat}
    {rest : Program service (Except Error Result)}
    (ran : Runs (c.execute sql).run (before ++ started query (.ok id) :: looks ++ after) rest)
    (timeout : Runs (c.poll id).run looks (.done (.error (.queryTimeout late limit)))) :
    after = [] ∧ rest = .done (.error (.queryTimeout late limit)) := by
  rw [execute_eq, List.append_cons, List.append_assoc] at ran
  obtain ⟨left, submitted, later⟩ := ran.split
  obtain ⟨number, submittedAt, leads⟩ := (c.leaves_started sql true query id).of_runs submitted
  have final : Final (.error (.queryTimeout late limit)) := by
    intro error same
    cases same
    rfl
  have ended := leads.ends looks _ (runs_bind_error timeout) final
  obtain ⟨middle, looked, finished⟩ := later.split
  rw [looked.unique ended] at finished
  exact runs_done.mp finished

/-- Polling ends at the first look that decides, and a query that took too long ends its call. -/
theorem polls_as_watched (c : Client) (id : String) :
    (∀ watch, c.StopsAtFirst id watch ((c.poll id).run.play watch.answer 0)) ∧
    ∀ sql before query looks late limit after rest,
      Runs (c.execute sql).run (before ++ started query (.ok id) :: looks ++ after) rest →
      Runs (c.poll id).run looks (.done (.error (.queryTimeout late limit))) →
        after = [] ∧ rest = .done (.error (.queryTimeout late limit)) :=
  ⟨c.poll_stops id, fun _ _ _ _ _ _ _ _ ran timeout => ends_of_timeout ran timeout⟩

def slowWatch : Watch where
  look n := if n % 2 = 0 then .error (.service "throttled") else .ok ⟨.running, none, 0, 0, none⟩
  time n := n * (2 * Nat.pow 10 9)
  other r := (failingAnswers r 0).1

theorem polls_as_watched_overdue :
    let c : Client :=
      ⟨{ Profile.ofRequired "s3://b/" "r" "s" "d" with retries := 1, timeout := some 5 }, 9⟩
    let timeout := .queryTimeout "first" 5
    let looked := (c.poll "first").run.play slowWatch.answer 0
    let ran := (c.execute "SELECT 1").run.play slowWatch.answer 0
    looked.2 = .done (.error timeout) ∧
      callsIn looked.1 = List.replicate 4 (.status "first") ++ [.stop "first"] ∧
      (∃ submittedAt, ran.1 = [⟨.now, submittedAt⟩] ++
        started (c.requestFor "SELECT 1") (.ok "first") :: looked.1 ++ []) ∧
      ran.2 = .done (.error timeout) := by
  intro c timeout looked ran
  obtain ⟨stops, ends⟩ := c.polls_as_watched "first"
  -- The second look is answered, so that the third one is the first failure in a row again.
  have second : slowWatch.look 1 = .ok ⟨.running, none, 0, 0, none⟩ := rfl
  have waits : ∀ i < 3, c.Undecided "first" slowWatch i := by
    intro i less
    obtain rfl | rfl | rfl : i = 0 ∨ i = 1 ∨ i = 2 := by omega
    · exact undecided_of_failed rfl rfl (.inl (by decide))
    · exact undecided_of_running second rfl fun limit limited => by cases limited; decide
    · exact undecided_of_failed rfl rfl (.inr ⟨1, by decide, by decide, _, second⟩)
  have decides : c.Decides "first" slowWatch 3 [.stop "first"] (.error timeout) :=
    .overdue rfl (.inr rfl) rfl (by decide)
  obtain ⟨outcome, calls⟩ := (stops slowWatch).decided 3 _ _ (by decide) waits decides
  have submitted : ran.1 = [⟨.now, (⟨0, 0⟩ : Timestamp)⟩] ++
      started (c.requestFor "SELECT 1") (.ok "first") :: looked.1 ++ [] := rfl
  have played := runs_play slowWatch.answer (c.execute "SELECT 1").run 0
  have polled := runs_play slowWatch.answer (c.poll "first").run 0
  rw [outcome] at polled
  change Runs _ ran.1 _ at played
  rw [submitted] at played
  have ended := ends "SELECT 1" _ _ looked.1 "first" 5 _ _ played polled
  exact ⟨outcome, calls, ⟨_, submitted⟩, ended.2⟩

end Client
end AthenaModels
