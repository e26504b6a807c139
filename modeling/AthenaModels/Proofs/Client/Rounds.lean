import AthenaModels.Client.Basic
import AthenaModels.Proofs.Client.Call
import AthenaModels.Proofs.Program.Completion

/-! The rounds of a call: before each attempt its preparation, and a pause before the next one. -/

namespace AthenaModels

open Program

namespace Call

variable {α : Type}

theorem expands_owned (trace : List Warehouse.service.Event) :
    Expands (fun r => ask (.own r)) trace (trace.map owned) := by
  induction trace with
  | nil => exact .nil
  | cons event trace ih => exact .cons (.answer (.stop _)) ih

theorem eq_map_owned_of_expands {trace : List Warehouse.service.Event} {events : List service.Event}
    (expands : Expands (fun r => ask (.own r)) trace events) : events = trace.map owned := by
  induction expands with
  | nil => rfl
  | cons ran _ ih =>
      cases runs_request ran
      rw [ih]
      rfl

theorem runs_own_iff {work : Work α} {events : List service.Event} {outcome : Except Error α} :
    Runs (own work).run events (.done outcome) ↔
      ∃ trace, events = trace.map owned ∧ Runs work.run trace (.done outcome) := by
  constructor
  · intro ran
    obtain ⟨trace, ran, expands⟩ := Runs.carried ran
    exact ⟨trace, eq_map_owned_of_expands expands, ran⟩
  · rintro ⟨trace, rfl, ran⟩
    exact ran.translate (expands_owned trace)

end Call

namespace Client

open Fallible Warehouse

variable (c : Client) {sql : String} {withRows : Bool} {number last more : Nat}
  {events : List Call.service.Event} {outcome : Except Error Result}

def round (trace : List service.Event) : List Call.service.Event :=
  ⟨.prepare, .ok ()⟩ :: trace.map Call.owned

def paused : Call.service.Event := Call.owned ⟨.sleep c.profile.pollInterval, ()⟩

/-- Attempts from the one with a number on, which ended in errors that can be retried. -/
inductive Retried (sql : String) (withRows : Bool) :
    Nat → List Error → List Call.service.Event → Prop where
  | first {number : Nat} : Retried sql withRows number [] []
  | again {number : Nat} {error : Error} {errors : List Error} {trace : List service.Event}
      {events : List Call.service.Event}
      (ran : Runs (c.attempt sql withRows number).run trace (.done (.error error)))
      (retryable : error.isRetryable = true)
      (later : Retried sql withRows (number + 1) errors events) :
      Retried sql withRows number (error :: errors) (round trace ++ c.paused :: events)

/-- No other attempt follows one that ends so. -/
def Final (outcome : Except Error Result) : Prop :=
  ∀ error, outcome = .error error → error.isRetryable = false

/-- How a call ends whose attempts are numbered from one number to another: a preparation fails, or
an attempt comes to an end that no other attempt changes, or there is no attempt left. -/
inductive Ended (sql : String) (withRows : Bool) (number last : Nat) :
    List Call.service.Event → Except Error Result → Prop where
  | unprepared {errors : List Error} {events : List Call.service.Event} {error : Error}
      (retried : c.Retried sql withRows number errors events)
      (few : number + errors.length ≤ last) :
      Ended sql withRows number last (events ++ [⟨.prepare, .error error⟩]) (.error error)
  | decided {errors : List Error} {events : List Call.service.Event} {trace : List service.Event}
      {outcome : Except Error Result} (retried : c.Retried sql withRows number errors events)
      (few : number + errors.length ≤ last)
      (ran : Runs (c.attempt sql withRows (number + errors.length)).run trace (.done outcome))
      (final : Final outcome) :
      Ended sql withRows number last (events ++ round trace) outcome
  | exhausted {errors : List Error} {events : List Call.service.Event} {trace : List service.Event}
      {error : Error} (retried : c.Retried sql withRows number errors events)
      (all : number + errors.length = last)
      (ran : Runs (c.attempt sql withRows (number + errors.length)).run trace
        (.done (.error error)))
      (retryable : error.isRetryable = true) :
      Ended sql withRows number last (events ++ round trace) (.error (.retriesExhausted last error))

variable {c}

theorem Ended.after {error : Error} {trace : List service.Event}
    (ran : Runs (c.attempt sql withRows number).run trace (.done (.error error)))
    (retryable : error.isRetryable = true)
    (later : c.Ended sql withRows (number + 1) last events outcome) :
    c.Ended sql withRows number last (round trace ++ c.paused :: events) outcome := by
  have count : ∀ errors : List Error, number + (error :: errors).length =
      number + 1 + errors.length := by
    intro errors
    rw [List.length_cons]
    omega
  cases later with
  | @unprepared errors events refusal retried few =>
      have ended : c.Ended sql withRows number last _ (.error refusal) :=
        .unprepared (.again ran retryable retried) (by rwa [count])
      simpa only [List.append_assoc, List.cons_append] using ended
  | @decided errors events part _ retried few attempted final =>
      have ended : c.Ended sql withRows number last _ outcome :=
        .decided (.again ran retryable retried) (by rwa [count]) (by rwa [count]) final
      simpa only [List.append_assoc, List.cons_append] using ended
  | @exhausted errors events part _ retried all attempted final =>
      have ended : c.Ended sql withRows number last _ _ :=
        .exhausted (.again ran retryable retried) (by rwa [count]) (by rwa [count]) final
      simpa only [List.append_assoc, List.cons_append] using ended

def settle (again : Error → Call Result) : Except Error Result → Call Result
  | .ok result => return result
  | .error error => if error.isRetryable then again error else throw error

theorem runs_settle_iff {again : Error → Call Result} {attempted : Except Error Result} :
    Runs (settle again attempted).run events (.done outcome) ↔
      (events = [] ∧ outcome = attempted ∧ Final attempted) ∨
        ∃ error, attempted = .error error ∧ error.isRetryable = true ∧
          Runs (again error).run events (.done outcome) := by
  cases attempted with
  | ok result =>
      constructor
      · intro ran
        obtain ⟨rfl, same⟩ := runs_done.mp ran
        exact .inl ⟨rfl, Program.done.inj same, nofun⟩
      · rintro (⟨rfl, rfl, _⟩ | ⟨_, same, _⟩)
        · exact .stop _
        · cases same
  | error error =>
      rw [settle]
      cases retryable : error.isRetryable with
      | true =>
          rw [if_pos rfl]
          constructor
          · exact fun ran => .inr ⟨error, rfl, retryable, ran⟩
          · rintro (⟨_, _, final⟩ | ⟨_, same, _, ran⟩)
            · exact absurd (retryable.symm.trans (final error rfl)) nofun
            · cases same
              exact ran
      | false =>
          rw [if_neg nofun]
          constructor
          · intro ran
            obtain ⟨rfl, same⟩ := runs_done.mp ran
            refine .inl ⟨rfl, Program.done.inj same, ?_⟩
            rintro _ ⟨⟩
            exact retryable
          · rintro (⟨rfl, rfl, _⟩ | ⟨_, same, other, _⟩)
            · exact .stop _
            · cases same
              exact absurd (other.symm.trans retryable) nofun

theorem attemptThen_eq (again : Error → Call Result) :
    c.attemptThen sql withRows number again = (do
      Call.prepare
      settle again (← (Call.own (c.attempt sql withRows number)).outcome)) := rfl

theorem runs_attemptThen_iff {again : Error → Call Result} :
    Runs (c.attemptThen sql withRows number again).run events (.done outcome) ↔
      (∃ error, events = [⟨.prepare, .error error⟩] ∧ outcome = .error error) ∨
        ∃ trace attempted later, events = round trace ++ later ∧
          Runs (c.attempt sql withRows number).run trace (.done attempted) ∧
            Runs (settle again attempted).run later (.done outcome) := by
  rw [attemptThen_eq]
  constructor
  · intro ran
    rcases runs_bind ran with ⟨error, rfl, refused⟩ | ⟨_, before, after, rfl, prepared, rest⟩
    · cases runs_request refused
      exact .inl ⟨error, rfl, rfl⟩
    · cases runs_request prepared
      obtain ⟨attempted, part, later, rfl, own, settled⟩ := runs_bind_outcome rest
      obtain ⟨trace, rfl, tried⟩ := Call.runs_own_iff.mp own
      exact .inr ⟨trace, attempted, later, rfl, tried, settled⟩
  · rintro (⟨error, rfl, rfl⟩ | ⟨trace, attempted, later, rfl, tried, settled⟩)
    · exact runs_bind_error (.answer (.stop _))
    · have own := runs_outcome (Call.runs_own_iff.mpr ⟨trace, rfl, tried⟩)
      have prepared : Runs Call.prepare.run [⟨.prepare, .ok ()⟩] (.done (.ok ())) :=
        .answer (.stop _)
      change Runs _ ([⟨.prepare, .ok ()⟩] ++ (trace.map Call.owned ++ later)) _
      exact runs_bind_ok prepared (runs_bind_ok own settled)

theorem runs_pause_iff :
    Runs (Call.own c.pause).run events (.done (.ok ())) ↔ events = [c.paused] := by
  rw [Call.runs_own_iff]
  constructor
  · rintro ⟨trace, rfl, ran⟩
    obtain ⟨_, _, slept⟩ := runs_lift ran
    rw [runs_request slept]
    rfl
  · rintro rfl
    exact ⟨_, rfl, .answer (.stop _)⟩

theorem ended_of_runs (ran : Runs (c.attemptsFrom sql withRows number more).run events
    (.done outcome)) : c.Ended sql withRows number (number + more) events outcome := by
  induction more generalizing number events outcome with
  | zero =>
      rcases runs_attemptThen_iff.mp ran with
        ⟨error, rfl, rfl⟩ | ⟨trace, attempted, later, rfl, tried, settled⟩
      · exact .unprepared .first (Nat.le_refl number)
      · rcases runs_settle_iff.mp settled with
          ⟨rfl, rfl, final⟩ | ⟨error, rfl, retryable, thrown⟩
        · rw [List.append_nil]
          exact .decided .first (Nat.le_refl number) tried final
        · obtain ⟨rfl, same⟩ := runs_done.mp thrown
          cases same
          rw [List.append_nil]
          exact .exhausted .first rfl tried retryable
  | succ more ih =>
      rcases runs_attemptThen_iff.mp ran with
        ⟨error, rfl, rfl⟩ | ⟨trace, attempted, later, rfl, tried, settled⟩
      · exact .unprepared .first (Nat.le_add_right number _)
      · rcases runs_settle_iff.mp settled with
          ⟨rfl, rfl, final⟩ | ⟨error, rfl, retryable, again⟩
        · rw [List.append_nil]
          exact .decided .first (Nat.le_add_right number _) tried final
        · rcases runs_bind again with ⟨_, _, stopped⟩ | ⟨_, before, after, rfl, slept, rest⟩
          · obtain ⟨_, _, asleep⟩ := Call.runs_own_iff.mp stopped
            obtain ⟨_, same, _⟩ := runs_lift asleep
            cases same
          · rw [runs_pause_iff.mp slept]
            have later := ih rest
            rw [Nat.add_right_comm] at later
            exact later.after tried retryable

theorem Retried.runs {errors : List Error} {before after : List Call.service.Event}
    (retried : c.Retried sql withRows number errors before)
    (rest : Runs (c.attemptsFrom sql withRows (number + errors.length) more).run after
      (.done outcome)) :
    Runs (c.attemptsFrom sql withRows number (more + errors.length)).run (before ++ after)
      (.done outcome) := by
  induction retried with
  | first => exact rest
  | @again number error errors trace events ran retryable _ ih =>
      rw [List.length_cons, Nat.add_comm errors.length, ← Nat.add_assoc] at rest
      rw [List.append_assoc]
      refine runs_attemptThen_iff.mpr (.inr ⟨trace, _, _, rfl, ran, ?_⟩)
      refine runs_settle_iff.mpr (.inr ⟨error, rfl, retryable, ?_⟩)
      change Runs _ ([c.paused] ++ (events ++ after)) _
      exact runs_bind_ok (runs_pause_iff.mpr rfl) (ih rest)

end Client
end AthenaModels
