import AthenaModels.Proofs.Client.Requests
import AthenaModels.Proofs.Client.Resubmission
import AthenaModels.Proofs.Client.Rounds
import AthenaModels.Proofs.Program.Remainder

namespace AthenaModels

open Program

namespace Call

variable {α : Type} {event : Warehouse.service.Event}

theorem own_leaves {work : Work α} {post : Program Warehouse.service (Except Error α) → Prop}
    (leaves : work.run.Leaves event post) :
    (own work).run.Leaves (owned event) fun left =>
      ∃ work : Work α, left = (own work).run ∧ post work.run := by
  refine (leaves.translate (makes_anything work.run) ?_).mono ?_
  · intro request _ reply
    refine ⟨?_, trivial⟩
    intro same
    obtain ⟨asked, told⟩ := event
    cases same
    exact ⟨_, rfl, rfl⟩
  · intro left origin
    obtain ⟨upper, same, holds⟩ := origin
    exact ⟨.mk upper, same, holds⟩

theorem expands_carryOut (preparation : Work Unit) (trace : List Warehouse.service.Event) :
    Expands (carryOut preparation) (trace.map owned) trace := by
  induction trace with
  | nil => exact .nil
  | cons event trace ih =>
      have carried : Runs (carryOut preparation (.own event.request)) [event]
          (.done event.reply) := .answer (.stop _)
      change Expands _ (owned event :: trace.map owned) ([event] ++ trace)
      exact .cons carried ih

theorem unprepared_leaves {call : Call α}
    {post : Program service (Except Error α) → Prop}
    (leaves : call.run.Leaves (owned event) post) :
    (call.prepared (pure ())).run.Leaves event fun left =>
      ∃ upper, left = upper.translate (carryOut (pure ())) ∧ post upper := by
  refine leaves.translate (makes_anything call.run) ?_
  intro request _
  cases request with
  | prepare => trivial
  | own r =>
      intro reply
      refine ⟨?_, trivial⟩
      intro same
      subst same
      exact ⟨reply, rfl, rfl⟩

end Call

namespace Client

open Fallible Warehouse

variable {c : Client} {sql : String} {withRows : Bool} {event : service.Event}
  {post : Work Result → Prop}

/-- What is left of a call begins with what is left of an attempt, and ends as that does unless it
is an error that can be retried. -/
structure Leads {S : Service} (attempt : Work Result)
    (carried : List service.Event → List S.Event) (left : Program S (Except Error Result)) :
    Prop where
  ends : ∀ trace outcome, Runs attempt.run trace (.done outcome) → Final outcome →
    Runs left (carried trace) (.done outcome)
  begins : ∀ trace last, Runs left trace (.done last) →
    ∃ part later outcome, trace = carried part ++ later ∧ Runs attempt.run part (.done outcome) ∧
      (Final outcome → later = [] ∧ last = outcome)

def LedBy (post : Work Result → Prop) (left : Program Call.service (Except Error Result)) :
    Prop :=
  ∃ attempt : Work Result, post attempt ∧ Leads attempt (List.map Call.owned) left

theorem settle_final {again : Error → Call Result} {outcome : Except Error Result}
    (final : Final outcome) : (settle again outcome).run = .done outcome := by
  cases outcome with
  | ok => rfl
  | error error =>
      rw [settle, final error rfl]
      rfl

theorem leads_own (again : Error → Call Result) (attempt : Work Result) :
    Leads attempt (List.map Call.owned)
      ((Call.own attempt).run.bind fun outcome => (settle again outcome).run) where
  ends := by
    intro trace outcome ran final
    have own := Call.runs_own_iff.mpr ⟨trace, rfl, ran⟩
    have settled : Runs (settle again outcome).run [] (.done outcome) := by
      rw [settle_final final]
      exact .stop _
    have ran := own.bind_done (f := fun outcome => (settle again outcome).run) settled
    rwa [List.append_nil] at ran
  begins := by
    intro trace last ran
    obtain ⟨outcome, before, later, rfl, own, settled⟩ := ran.of_bind_done
    obtain ⟨part, rfl, attempted⟩ := Call.runs_own_iff.mp own
    refine ⟨part, later, outcome, rfl, attempted, ?_⟩
    intro final
    rw [settle_final final] at settled
    obtain ⟨rfl, same⟩ := runs_done.mp settled
    exact ⟨rfl, Program.done.inj same⟩

theorem attemptThen_leaves_own {number : Nat} {again : Error → Call Result}
    (leaves : (c.attempt sql withRows number).run.Leaves event fun left => post (.mk left))
    (next : ∀ error, (again error).run.Leaves (Call.owned event) (LedBy post)) :
    (c.attemptThen sql withRows number again).run.Leaves (Call.owned event) (LedBy post) := by
  rw [attemptThen_eq]
  refine Fallible.leaves_bind (fun reply => ⟨nofun, trivial⟩) fun _ => ?_
  refine leaves_bind_outcome ((Call.own_leaves leaves).mono ?_) fun outcome => ?_
  · intro left origin
    obtain ⟨attempt, rfl, holds⟩ := origin
    exact ⟨attempt, holds, leads_own again attempt⟩
  · cases outcome with
    | ok => trivial
    | error error =>
        cases retryable : error.isRetryable with
        | true =>
            rw [settle, if_pos retryable]
            exact next error
        | false =>
            -- The call is over with this error, so no attempt comes after it.
            rw [settle, retryable]
            trivial

theorem attemptsFrom_leaves_own {number more : Nat}
    (leaves : ∀ number, (c.attempt sql withRows number).run.Leaves event fun left =>
      post (.mk left))
    (awake : ∀ seconds, event.request ≠ .sleep seconds) :
    (c.attemptsFrom sql withRows number more).run.Leaves (Call.owned event) (LedBy post) := by
  induction more generalizing number with
  | zero => exact attemptThen_leaves_own (leaves number) fun _ => trivial
  | succ more ih =>
      refine attemptThen_leaves_own (leaves number) fun _ => ?_
      refine Fallible.leaves_bind ?_ fun _ => ih
      intro reply
      refine ⟨?_, trivial⟩
      intro same
      obtain ⟨request, told⟩ := event
      cases same
      exact absurd rfl (awake _)

/-- The attempts at a statement before which nothing is to be prepared. -/
def attemptsAlone (c : Client) (sql : String) (withRows : Bool) : Work Result :=
  (c.attempts sql withRows).prepared (pure ())

theorem attemptsAlone_leaves (c : Client) (sql : String) (withRows : Bool)
    (leaves : ∀ number, (c.attempt sql withRows number).run.Leaves event fun left =>
      post (.mk left))
    (awake : ∀ seconds, event.request ≠ .sleep seconds) :
    (c.attemptsAlone sql withRows).run.Leaves event fun left =>
      ∃ attempt, post attempt ∧ Leads attempt (fun trace => trace) left := by
  refine (Call.unprepared_leaves (attemptsFrom_leaves_own leaves awake)).mono ?_
  intro left origin
  obtain ⟨upper, rfl, attempt, holds, leads⟩ := origin
  refine ⟨attempt, holds, ?_, ?_⟩
  · intro trace outcome ran final
    exact (leads.ends trace outcome ran final).translate (Call.expands_carryOut _ trace)
  · intro trace last ran
    obtain ⟨events, carried, expands⟩ := ran.carried
    obtain ⟨part, later, outcome, rfl, attempted, ends⟩ := leads.begins events last carried
    refine ⟨part, Call.ownEvents later, outcome, ?_, attempted, ?_⟩
    · rw [Call.expands_unprepared expands, Call.ownEvents_append, Call.ownEvents_map_owned]
    · intro final
      obtain ⟨rfl, same⟩ := ends final
      exact ⟨rfl, same⟩

theorem execute_eq (c : Client) (sql : String) : c.execute sql = c.attemptsAlone sql true := rfl

theorem runs_attemptsAlone_of_executeStatement {trace : List service.Event} {error : Error}
    (ran : Runs (c.executeStatement sql).run trace (.done (.error error))) :
    Runs (c.attemptsAlone sql false).run trace (.done (.error error)) := by
  obtain ⟨events, carried, expands⟩ := Runs.carried ran
  rcases runs_bind carried with ⟨other, same, failed⟩ | ⟨result, before, after, rfl, _, returned⟩
  · cases same
    exact failed.translate expands
  · obtain ⟨_, same⟩ := runs_done.mp returned
    cases same

theorem attempt_leaves_started (c : Client) (sql : String) (withRows : Bool) (number : Nat)
    (query : QueryRequest) (id : String) :
    (c.attempt sql withRows number).run.Leaves (started query (.ok id)) fun left =>
      ∃ number submittedAt, .mk left = c.attend withRows number submittedAt id := by
  rw [attempt_eq]
  refine Fallible.leaves_bind (fun reply => ⟨nofun, trivial⟩) fun submittedAt => ?_
  refine Fallible.leaves_bind ?_ fun other => ?_
  · intro reply
    refine ⟨?_, trivial⟩
    intro same
    cases same
    exact ⟨number, submittedAt, rfl⟩
  · exact (c.attend_makes withRows number submittedAt other).leaves fun attends => attends

theorem leaves_started (c : Client) (sql : String) (withRows : Bool) (query : QueryRequest)
    (id : String) :
    (c.attemptsAlone sql withRows).run.Leaves (started query (.ok id)) fun left =>
      ∃ number submittedAt,
        Leads (c.attend withRows number submittedAt id) (fun trace => trace) left := by
  let attends (attempt : Work Result) : Prop :=
    ∃ number submittedAt, attempt = c.attend withRows number submittedAt id
  have leaves := @attemptsAlone_leaves (started query (.ok id)) attends c sql withRows
    (fun number => c.attempt_leaves_started sql withRows number query id)
    (by simp [Warehouse.started])
  apply leaves.mono
  intro left origin
  obtain ⟨attempt, ⟨number, submittedAt, rfl⟩, leads⟩ := origin
  exact ⟨number, submittedAt, leads⟩

end Client
end AthenaModels
