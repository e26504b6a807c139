import AthenaModels.Proofs.Client.Accounting
import AthenaModels.Proofs.Client.Fetching

namespace AthenaModels

namespace Call

/-- How far a call has come: before its first preparation, or in an attempt that has not yet looked
at its query, or in one that has. -/
inductive Stage where
  | begun
  | unlooked
  | looked
deriving DecidableEq

namespace Stage

def next (stage : Stage) : Request → Stage
  | .prepare => .unlooked
  | .own (.status _) => .looked
  | _ => stage

/-- What comes after a pause: any preparation but the first, and any look but the first one of an
attempt. -/
def waits : Stage → Request → Bool
  | .begun, .prepare => false
  | _, .prepare => true
  | .looked, .own (.status _) => true
  | _, _ => false

def after (stage : Stage) (events : List service.Event) : Stage :=
  events.foldl (fun stage event => stage.next event.request) stage

end Stage

def isSleep : Request → Bool
  | .own (.sleep _) => true
  | _ => false

def isPreparation : Request → Bool
  | .prepare => true
  | _ => false

def awake (events : List service.Event) : List service.Event :=
  events.filter fun event => !isSleep event.request

/-- How often the attempt that is going on looks, which has done so `looks` times, and then each of
the others. -/
def looksFrom (looks : Nat) : List service.Event → List Nat
  | [] => [looks]
  | event :: events =>
      match event.request with
      | .prepare => looks :: looksFrom 0 events
      | .own (.status _) => looksFrom (looks + 1) events
      | _ => looksFrom looks events

def repeated : List Nat → Nat
  | [] => 0
  | looks :: attempts => (looks - 1) + repeated attempts

end Call

namespace Client

open Call Fallible Program Warehouse

variable (c : Client) {stage : Stage} {event : Call.service.Event}
  {events others : List Call.service.Event}

def spaced (stage : Stage) : List Call.service.Event → List Call.service.Event
  | [] => []
  | event :: events =>
      if stage.waits event.request then
        c.paused :: event :: spaced (stage.next event.request) events
      else event :: spaced (stage.next event.request) events

def Paced (stage : Stage) (events : List Call.service.Event) : Prop :=
  c.spaced stage (awake events) = events

variable {c}

theorem awake_cons (isAwake : isSleep event.request = false) :
    awake (event :: events) = event :: awake events :=
  List.filter_cons_of_pos (by rw [isAwake]; rfl)

theorem paced_nil : c.Paced stage [] := rfl

theorem paced_cons (isAwake : isSleep event.request = false)
    (atOnce : stage.waits event.request = false)
    (later : c.Paced (stage.next event.request) events) : c.Paced stage (event :: events) := by
  rw [Paced, awake_cons isAwake, spaced, atOnce, if_neg Bool.false_ne_true]
  exact congrArg _ later

theorem paced_paused (isAwake : isSleep event.request = false)
    (waits : stage.waits event.request = true)
    (later : c.Paced (stage.next event.request) events) :
    c.Paced stage (c.paused :: event :: events) := by
  have asleep : awake (c.paused :: event :: events) = awake (event :: events) := rfl
  rw [Paced, asleep, awake_cons isAwake, spaced, if_pos waits]
  exact congrArg (fun rest => c.paused :: event :: rest) later

theorem spaced_append (before after : List Call.service.Event) :
    c.spaced stage (before ++ after) =
      c.spaced stage before ++ c.spaced (stage.after before) after := by
  induction before generalizing stage with
  | nil => rfl
  | cons event before ih =>
      rw [List.cons_append, spaced, spaced, ih]
      cases stage.waits event.request <;> rfl

theorem after_awake (stage : Stage) (events : List Call.service.Event) :
    stage.after (awake events) = stage.after events := by
  induction events generalizing stage with
  | nil => rfl
  | cons event events ih =>
      obtain ⟨request, reply⟩ := event
      cases request with
      | prepare => exact ih _
      | own r => cases r <;> exact ih _

theorem Paced.append (first : c.Paced stage events) (second : c.Paced (stage.after events) others) :
    c.Paced stage (events ++ others) := by
  rw [Paced, awake, List.filter_append, spaced_append]
  change c.spaced stage (awake events) ++ c.spaced (stage.after (awake events)) (awake others) = _
  rw [after_awake, first, second]

theorem after_ne_begun (started : stage ≠ .begun) (events : List Call.service.Event) :
    stage.after events ≠ .begun := by
  induction events generalizing stage with
  | nil => exact started
  | cons event events ih =>
      refine ih ?_
      obtain ⟨request, reply⟩ := event
      cases request with
      | prepare => exact nofun
      | own r => cases r <;> first | exact started | exact nofun

section
variable {id sql : String} {start failures number : Nat} {withRows : Bool}
  {trace : List Warehouse.service.Event}

structure Looks (c : Client) (events : List Call.service.Event) : Prop where
  first : c.Paced .unlooked events
  next : c.Paced .looked (c.paused :: events)

theorem looks_cons {reply : Except Error QueryStatus} (later : c.Paced .looked events) :
    c.Looks (owned (checked id reply) :: events) :=
  ⟨paced_cons rfl rfl later, paced_paused rfl rfl later⟩

theorem Polled.looks {outcome : Except Error QueryStatus}
    (polled : c.Polled id start failures trace outcome) : c.Looks (trace.map owned) := by
  induction polled with
  | succeeded | failed | cancelled | refused | exhausted => exact looks_cons paced_nil
  | overdue => exact looks_cons (paced_cons rfl rfl (paced_cons rfl rfl paced_nil))
  | again _ _ _ ih => exact looks_cons ih.next
  | waiting _ inTime _ ih =>
      cases inTime with
      | unlimited => exact looks_cons ih.next
      | early => exact looks_cons (paced_cons rfl rfl ih.next)

theorem Polls.paced {outcome : Except Error QueryStatus} (polls : c.Polls id trace outcome) :
    c.Paced .unlooked (trace.map owned) := by
  cases polls with
  | unlimited _ polled => exact polled.looks.first
  | limited _ polled => exact paced_cons rfl rfl polled.looks.first

theorem Paged.paced {token : Option String} {outcome : Except Error (List Page)}
    (paged : Paged id token trace outcome) : c.Paced stage (trace.map owned) := by
  have atOnce : ∀ token, stage.waits (.own (.page id token)) = false := by
    intro token
    cases stage <;> rfl
  induction paged with
  | refused | last => exact paced_cons rfl (atOnce _) paced_nil
  | more _ _ ih => exact paced_cons rfl (atOnce _) ih

theorem Attempted.paced {outcome : Except Error Result}
    (attempted : c.Attempted sql withRows number trace outcome) :
    c.Paced .unlooked (trace.map owned) := by
  cases attempted with
  | refused => exact paced_cons rfl rfl (paced_cons rfl rfl paced_nil)
  | submitted attended =>
      refine paced_cons rfl rfl (paced_cons rfl rfl ?_)
      cases attended with
      | unsuccessful polls => exact polls.paced
      | executed _ polls => exact polls.paced
      | fetched _ polls paged =>
          rw [List.map_append]
          exact polls.paced.append paged.paced

end

section
variable {sql : String} {withRows : Bool} {number last : Nat} {trace : List Warehouse.service.Event}
  {outcome : Except Error Result}

structure Rounds (c : Client) (events : List Call.service.Event) : Prop where
  first : c.Paced .begun events
  next : ∀ stage, stage ≠ .begun → c.Paced stage (c.paused :: events)

theorem rounds_prepared {reply : Except Error Unit} (later : c.Paced .unlooked events) :
    c.Rounds (⟨.prepare, reply⟩ :: events) := by
  refine ⟨paced_cons rfl rfl later, fun stage started => paced_paused rfl ?_ later⟩
  cases stage with
  | begun => exact absurd rfl started
  | unlooked => rfl
  | looked => rfl

theorem rounds_attempted (attempted : c.Attempted sql withRows number trace outcome)
    (later : ∀ stage, stage ≠ .begun → c.Paced stage events) :
    c.Rounds (round trace ++ events) := by
  have started : Stage.unlooked ≠ .begun := by decide
  exact rounds_prepared (attempted.paced.append (later _ (after_ne_begun started _)))

theorem Retried.rounds {errors : List Error} (retried : c.Retried sql withRows number errors events)
    (rest : c.Rounds others) : c.Rounds (events ++ others) := by
  induction retried with
  | first => exact rest
  | again ran _ _ ih =>
      rw [List.append_assoc]
      exact rounds_attempted (attempted_of_runs ran) ih.next

theorem Ended.rounds (ended : c.Ended sql withRows number last events outcome) :
    c.Rounds events := by
  have final : ∀ {trace number outcome}, c.Attempted sql withRows number trace outcome →
      c.Rounds (round trace) := by
    intro trace number outcome attempted
    rw [← List.append_nil (round trace)]
    exact rounds_attempted attempted fun _ _ => paced_nil
  cases ended with
  | unprepared retried => exact retried.rounds (rounds_prepared paced_nil)
  | decided retried _ ran => exact retried.rounds (final (attempted_of_runs ran))
  | exhausted retried _ ran => exact retried.rounds (final (attempted_of_runs ran))

def sleeps (events : List Call.service.Event) : Nat :=
  events.countP fun event => isSleep event.request

def preparations (events : List Call.service.Event) : Nat :=
  events.countP fun event => isPreparation event.request

theorem sleeps_spaced_cons (isAwake : isSleep event.request = false) :
    sleeps (c.spaced stage (event :: events)) =
      sleeps (c.spaced (stage.next event.request) events) + (stage.waits event.request).toNat := by
  have alone : sleeps (event :: c.spaced (stage.next event.request) events) =
      sleeps (c.spaced (stage.next event.request) events) :=
    List.countP_cons_of_neg (by rw [isAwake]; exact nofun)
  rw [spaced]
  cases stage.waits event.request with
  | false => rw [if_neg nofun, alone, Bool.toNat_false, Nat.add_zero]
  | true =>
      rw [if_pos rfl, ← alone]
      exact List.countP_cons_of_pos rfl

inductive HasLooked : Stage → Nat → Prop where
  | unlooked : HasLooked .unlooked 0
  | looked {looks : Nat} : HasLooked .looked (looks + 1)

theorem sleeps_spaced {looks : Nat} (looked : HasLooked stage looks)
    (isAwake : ∀ event ∈ events, isSleep event.request = false) :
    sleeps (c.spaced stage events) + (looks - 1) =
      preparations events + repeated (looksFrom looks events) := by
  induction events generalizing stage looks with
  | nil => simp [spaced, sleeps, preparations, looksFrom, repeated]
  | cons event events ih =>
      obtain ⟨here, others⟩ := List.forall_mem_cons.mp isAwake
      rw [sleeps_spaced_cons here]
      obtain ⟨request, reply⟩ := event
      cases request with
      | prepare =>
          -- The looks of the attempt before it are complete, and those of the next one start anew.
          have later := ih .unlooked others
          have waits : stage.waits .prepare = true := by cases looked <;> rfl
          have counted : preparations (⟨.prepare, reply⟩ :: events) = preparations events + 1 :=
            List.countP_cons_of_pos rfl
          simp only [waits, counted, looksFrom, repeated, Stage.next, Bool.toNat_true]
          omega
      | own r =>
          have counted : preparations (⟨.own r, reply⟩ :: events) = preparations events :=
            List.countP_cons_of_neg nofun
          rw [counted]
          cases r with
          | sleep => cases here
          | status id =>
              have later := ih (.looked : HasLooked .looked (looks + 1)) others
              cases looked with
              | unlooked => exact later
              | looked =>
                  simp only [Stage.waits, Stage.next, looksFrom, Bool.toNat_true]
                  omega
          | _ =>
              have later := ih looked others
              cases looked <;> exact later

theorem preparations_awake (events : List Call.service.Event) :
    preparations (awake events) = preparations events := by
  rw [preparations, preparations, awake, List.countP_filter]
  apply List.countP_congr
  intro event _
  obtain ⟨request, reply⟩ := event
  cases request with
  | prepare => rfl
  | own r => cases r <;> rfl

theorem looksFrom_awake (looks : Nat) (events : List Call.service.Event) :
    looksFrom looks (awake events) = looksFrom looks events := by
  induction events generalizing looks with
  | nil => rfl
  | cons event events ih =>
      obtain ⟨request, reply⟩ := event
      cases request with
      | prepare => exact congrArg (looks :: ·) (ih 0)
      | own r => cases r <;> exact ih _

/-- There is one pause before each preparation but the first, and one before each look but the first
of its attempt, and there are no others. -/
structure PausesBetween (c : Client) (events : List Call.service.Event) : Prop where
  paced : c.Paced .begun events
  count : sleeps events + 1 = preparations events + repeated (looksFrom 0 events)

theorem Rounds.pausesBetween (rounds : c.Rounds events) : c.PausesBetween events := by
  refine ⟨rounds.first, ?_⟩
  have allAwake : ∀ event ∈ awake events, isSleep event.request = false := by
    intro event member
    simpa using (List.mem_filter.mp member).2
  have one : sleeps (c.paused :: events) = sleeps events + 1 := List.countP_cons_of_pos rfl
  -- As if an attempt had been made before, with a pause before the first preparation as well.
  have again : c.spaced .unlooked (awake events) = c.paused :: events :=
    rounds.next .unlooked (by decide)
  have counted := sleeps_spaced (c := c) .unlooked allAwake
  rwa [again, one, preparations_awake, looksFrom_awake] at counted

end

/-- Whatever the warehouse and the preparations do, a call that comes to its end has paused for just
one interval between two looks of an attempt and between two attempts, and at no other time. -/
theorem pauses_between (c : Client) (sql : String) :
    (∀ withRows events outcome, Runs (c.attempts sql withRows).run events (.done outcome) →
      c.PausesBetween events) ∧
    (∀ trace outcome, Runs (c.execute sql).run trace (.done outcome) →
      ∃ events, Runs (c.attempts sql true).run events (.done outcome) ∧
        trace = ownEvents events ∧ c.PausesBetween events) ∧
    (∀ trace outcome, Runs (c.executeStatement sql).run trace (.done outcome) →
      ∃ events, Runs (c.statementCall sql).run events (.done outcome) ∧
        trace = ownEvents events ∧ c.PausesBetween events) ∧
    ∀ preparation trace outcome,
      Runs (c.executePrepared preparation sql).run trace (.done outcome) →
      ∃ events, Runs (c.statementCall sql).run events (.done outcome) ∧
        Expands (Call.carryOut preparation) events trace ∧ c.PausesBetween events := by
  have attempts : ∀ withRows events outcome,
      Runs (c.attempts sql withRows).run events (.done outcome) → c.PausesBetween events :=
    fun _ _ _ ran => (ended_of_runs ran).rounds.pausesBetween
  have prepared : ∀ preparation trace outcome,
      Runs (c.executePrepared preparation sql).run trace (.done outcome) →
      ∃ events, Runs (c.statementCall sql).run events (.done outcome) ∧
        Expands (Call.carryOut preparation) events trace ∧ c.PausesBetween events := by
    intro preparation trace outcome ran
    obtain ⟨events, ran, expands⟩ := Runs.carried ran
    obtain ⟨_, _, attempted⟩ := attempts_of_statementCall ran
    exact ⟨events, ran, expands, attempts _ _ _ attempted⟩
  refine ⟨attempts, ?_, ?_, prepared⟩
  · intro trace outcome ran
    obtain ⟨events, ran, expands⟩ := Runs.carried ran
    exact ⟨events, ran, expands_unprepared expands, attempts _ _ _ ran⟩
  · intro trace outcome ran
    obtain ⟨events, ran, expands, pauses⟩ := prepared (pure ()) trace outcome ran
    exact ⟨events, ran, expands_unprepared expands, pauses⟩

def fitfulWatch : Watch where
  look
    | 0 => .error (.service "throttled")
    | 1 => .ok ⟨.running, none, 0, 0, none⟩
    | 2 => .ok ⟨.failed, none, 0, 0, none⟩
    | _ => .ok ⟨.succeeded, none, 0, 0, none⟩
  time _ := 0
  other r := (failingAnswers r 0).1

theorem pauses_between_fitful :
    let c : Client := ⟨{ Profile.ofRequired "s3://b/" "r" "s" "d" with retries := 2 }, 3⟩
    let preparation : Work Unit := do let _ ← Work.deletePrefix "s3://b/tmp/"
    let statement := (c.executeStatement "SELECT 1").run.play fitfulWatch.answer 0
    let prepared := (c.executePrepared preparation "SELECT 1").run.play fitfulWatch.answer 0
    starts statement.1 = 2 ∧ statement.2.ended? = some true ∧ prepared.2.ended? = some true ∧
      (statement.1.countP fun event => isSleep (.own event.request)) = 3 ∧
      (∃ events, statement.1 = ownEvents events ∧ c.PausesBetween events) ∧
      ∃ events, Expands (Call.carryOut preparation) events prepared.1 ∧ c.PausesBetween events := by
  intro c preparation statement prepared
  obtain ⟨_, _, forStatements, forPrepared⟩ := c.pauses_between "SELECT 1"
  have ended : statement.2.ended? = some true := by decide +kernel
  have ended' : prepared.2.ended? = some true := by decide +kernel
  obtain ⟨_, done⟩ := eq_ok_of_ended? ended
  obtain ⟨_, done'⟩ := eq_ok_of_ended? ended'
  obtain ⟨events, _, own, pauses⟩ := forStatements statement.1 _ (done ▸ runs_play _ _ _)
  obtain ⟨events', _, expands, pauses'⟩ :=
    forPrepared preparation prepared.1 _ (done' ▸ runs_play _ _ _)
  exact ⟨by decide +kernel, ended, ended', by decide +kernel, ⟨events, own, pauses⟩,
    events', expands, pauses'⟩

end Client
end AthenaModels
