import AthenaModels.Client.Basic
import AthenaModels.Proofs.Program.Protocol

/-! Rules for what a client repeats: looks at a query, requests for the pages of a result, and
attempts at a statement. -/

namespace AthenaModels.Client

open Fallible Program

variable (c : Client) {σ : Type} {protocol : Protocol Warehouse.service σ} {id : String}
  {start failures patience : Nat} {state : σ}

theorem maxAttempts_pos {c : Client} : 0 < c.maxAttempts :=
  Nat.lt_min.mpr ⟨Nat.succ_pos _, by decide⟩

def Idles (id : String) : Warehouse.Request → Prop
  | .clock | .sleep _ => True
  | .stop other => other = id
  | _ => False

def Looked (id : String) (holds : Nat → σ → Prop) (post : σ → Except Error QueryStatus → Prop)
    (failures : Nat) (state : σ) : Except Error QueryStatus → Prop
  | .error error =>
      if error.isRetryable then
        if c.maxAttempts ≤ failures + 1 then
          post state (.error (.retriesExhausted (failures + 1) error))
        else holds (failures + 1) state
      else post state (.error error)
  | .ok status =>
      match status.state with
      | .succeeded => post state (.ok status)
      | .failed => post state (.error (.queryFailed id (status.reason.getD "unknown")))
      | .cancelled => post state (.error (.queryCancelled id))
      | .queued | .running => holds 0 state

section
variable (holds : Nat → σ → Prop) {post : σ → Except Error QueryStatus → Prop}

theorem looked_error {error : Error}
    (final : error.isRetryable = false → post state (.error error))
    (exhausted : error.isRetryable = true → c.maxAttempts ≤ failures + 1 →
      post state (.error (.retriesExhausted (failures + 1) error)))
    (again : error.isRetryable = true → failures + 1 < c.maxAttempts →
      holds (failures + 1) state) :
    c.Looked id holds post failures state (.error error) := by
  simp only [Looked]
  by_cases retryable : error.isRetryable = true
  · rw [if_pos retryable]
    by_cases many : c.maxAttempts ≤ failures + 1
    · rw [if_pos many]
      exact exhausted retryable many
    · rw [if_neg many]
      exact again retryable (Nat.lt_of_not_le many)
  · rw [if_neg retryable]
    exact final (Bool.eq_false_iff.mpr retryable)

theorem stopOverdue_keeps_of
    (idles : ∀ request state, Idles id request → holds failures state →
      protocol.allowed state request ∧
        ∀ reply later, protocol.step state ⟨request, reply⟩ later → holds failures later)
    (now : holds failures state) :
    (c.stopOverdue id start).run.Keeps protocol
      (ends (fun later _ => holds failures later) (fun later error => holds failures later ∧
        ∃ limit, error = .queryTimeout id limit)) state := by
  unfold stopOverdue
  cases c.profile.timeout with
  | none => exact now
  | some limit =>
      obtain ⟨allowed, kept⟩ := idles .clock state trivial now
      refine Fallible.keeps_bind.mpr (keeps_lift.mpr (keeps_request.mpr ⟨allowed, ?_⟩))
      intro time later step
      have now := kept time later step
      by_cases overdue : limit * Nat.pow 10 9 ≤ time - start
      · obtain ⟨allowed, kept⟩ := idles (.stop id) later rfl now
        rw [if_pos overdue]
        refine Fallible.keeps_bind.mpr (keeps_outcome.mpr (keeps_request.mpr ⟨allowed, ?_⟩))
        intro reply last step
        exact ⟨kept reply last step, limit, rfl⟩
      · rw [if_neg overdue]
        exact now

theorem failed_look_keeps_of {error : Error} {again : Work QueryStatus}
    (looked : c.Looked id holds post failures state (.error error))
    (next : holds (failures + 1) state → again.run.Keeps protocol post state) :
    (if !error.isRetryable then throw error
      else if c.maxAttempts ≤ failures + 1 then throw (.retriesExhausted (failures + 1) error)
      else again : Work QueryStatus).run.Keeps protocol post state := by
  simp only [Looked] at looked
  by_cases retryable : error.isRetryable = true
  · rw [if_pos retryable] at looked
    rw [if_neg (by simp [retryable])]
    by_cases many : c.maxAttempts ≤ failures + 1
    · rw [if_pos many] at looked ⊢
      exact looked
    · rw [if_neg many] at looked ⊢
      exact next looked
  · rw [if_neg retryable] at looked
    rw [if_pos (by simp [retryable])]
    exact looked

/-- What holds before a look holds before the next one, with the looks in a row that have failed
by then. -/
theorem pollFrom_keeps_of
    (idles : ∀ failures request state, Idles id request → holds failures state →
      protocol.allowed state request ∧
        ∀ reply later, protocol.step state ⟨request, reply⟩ later → holds failures later)
    (looks : ∀ failures state, holds failures state → protocol.allowed state (.status id) ∧
      ∀ reply later, protocol.step state ⟨.status id, reply⟩ later →
        c.Looked id holds post failures later reply)
    (overdue : ∀ state limit, holds 0 state → post state (.error (.queryTimeout id limit)))
    (now : holds failures state) :
    (c.pollFrom id start patience failures).run.Keeps protocol post state := by
  induction patience generalizing failures state with
  | zero => trivial
  | succ patience ih =>
      have again : ∀ {failures state}, holds failures state →
          (do c.pause; c.pollFrom id start patience failures).run.Keeps protocol post state := by
        intro failures state now
        obtain ⟨allowed, kept⟩ := idles failures (.sleep c.profile.pollInterval) state trivial now
        refine Fallible.keeps_bind.mpr (keeps_lift.mpr (keeps_request.mpr ⟨allowed, ?_⟩))
        intro slept later step
        exact ih (kept slept later step)
      have waited : ∀ {state}, holds 0 state →
          (do c.stopOverdue id start; c.pause; c.pollFrom id start patience 0).run.Keeps protocol
            post state := by
        intro state now
        refine keeps_bind_of (c.stopOverdue_keeps_of holds (idles 0) now) ?_ fun _ _ => again
        rintro later _ ⟨now, limit, rfl⟩
        exact overdue later limit now
      obtain ⟨allowed, looked⟩ := looks failures state now
      refine Fallible.keeps_bind.mpr (keeps_outcome.mpr (keeps_request.mpr ⟨allowed, ?_⟩))
      intro reply later step
      have after := looked reply later step
      cases reply with
      | error error => exact c.failed_look_keeps_of holds after again
      | ok status =>
          dsimp only
          cases state : status.state with
          | succeeded | failed | cancelled =>
              simp only [Looked, state] at after
              exact after
          | queued | running =>
              simp only [Looked, state] at after
              exact waited after

theorem poll_keeps_of
    (idles : ∀ failures request state, Idles id request → holds failures state →
      protocol.allowed state request ∧
        ∀ reply later, protocol.step state ⟨request, reply⟩ later → holds failures later)
    (looks : ∀ failures state, holds failures state → protocol.allowed state (.status id) ∧
      ∀ reply later, protocol.step state ⟨.status id, reply⟩ later →
        c.Looked id holds post failures later reply)
    (overdue : ∀ state limit, holds 0 state → post state (.error (.queryTimeout id limit)))
    (now : holds 0 state) : (c.poll id).run.Keeps protocol post state := by
  unfold poll
  cases c.profile.timeout with
  | none => exact c.pollFrom_keeps_of holds idles looks overdue now
  | some limit =>
      obtain ⟨allowed, kept⟩ := idles 0 .clock state trivial now
      refine Fallible.keeps_bind.mpr (keeps_lift.mpr (keeps_request.mpr ⟨allowed, ?_⟩))
      intro start later step
      exact c.pollFrom_keeps_of holds idles looks overdue (kept start later step)

end

theorem pagesFrom_keeps_of (holds : σ → Prop) {bad : σ → Error → Prop} {token : Option String}
    (reads : ∀ token state, holds state → protocol.allowed state (.page id token) ∧
      ∀ reply later, protocol.step state ⟨.page id token, reply⟩ later →
        ends (fun later _ => holds later) bad later reply)
    (now : holds state) :
    (pagesFrom id patience token).run.Keeps protocol (ends (fun later _ => holds later) bad)
      state := by
  induction patience generalizing token state with
  | zero => trivial
  | succ patience ih =>
      obtain ⟨allowed, kept⟩ := reads token state now
      refine Fallible.keeps_bind.mpr (keeps_request.mpr ⟨allowed, ?_⟩)
      intro reply later step
      have now := kept reply later step
      cases reply with
      | error error => exact now
      | ok page =>
          dsimp only [ends]
          cases page.nextToken with
          | none => exact now
          | some token => exact keeps_bind_of (ih now) (fun _ _ failed => failed) fun _ _ now => now

section
variable {sql : String} {protocol : Protocol Call.service σ} {withRows : Bool}
  {post : σ → Except Error Result → Prop} {number : Nat}

theorem attemptThen_keeps_of {before prepared after : σ → Prop} {again : Error → Call Result}
    (prepares : ∀ state, before state → Call.prepare.run.Keeps protocol
      (ends (fun later _ => prepared later) (fun later error => post later (.error error))) state)
    (attempts : ∀ state, prepared state →
      (Call.own (c.attempt sql withRows number)).run.Keeps protocol
        (fun later outcome => post later outcome ∧
          ∀ error, outcome = .error error → error.isRetryable = true → after later) state)
    (next : ∀ state error, error.isRetryable = true → after state →
      (again error).run.Keeps protocol post state)
    (now : before state) :
    (c.attemptThen sql withRows number again).run.Keeps protocol post state := by
  refine Fallible.keeps_bind_of (prepares state now) (fun _ _ failed => failed) ?_
  intro later _ now
  refine Fallible.keeps_bind.mpr (keeps_outcome.mpr ((attempts later now).mono ?_))
  intro later outcome given
  obtain ⟨ended, retried⟩ := given
  cases outcome with
  | ok => exact ended
  | error error =>
      by_cases retryable : error.isRetryable = true
      · simp only [if_pos retryable]
        exact next later error retryable (retried error rfl retryable)
      · simp only [if_neg retryable]
        exact ended

theorem attemptsFrom_keeps_at {more last : Nat} (before prepared after : Nat → σ → Prop)
    (prepares : ∀ number state, before number state → Call.prepare.run.Keeps protocol
      (ends (fun later _ => prepared number later)
        (fun later error => post later (.error error))) state)
    (attempts : ∀ number state, prepared number state →
      (Call.own (c.attempt sql withRows number)).run.Keeps protocol
        (fun later outcome => post later outcome ∧
          ∀ error, outcome = .error error → error.isRetryable = true → after number later) state)
    (pauses : ∀ number state, number < last → after number state →
      (Call.own c.pause).run.Keeps protocol
        (ends (fun later _ => before (number + 1) later) (fun _ _ => False)) state)
    (exhausts : ∀ state error, error.isRetryable = true → after last state →
      post state (.error (.retriesExhausted last error)))
    (count : number + more = last) (now : before number state) :
    (c.attemptsFrom sql withRows number more).run.Keeps protocol post state := by
  induction more generalizing number state with
  | zero =>
      subst count
      exact c.attemptThen_keeps_of (prepares number) (attempts number) exhausts now
  | succ more ih =>
      refine c.attemptThen_keeps_of (prepares number) (attempts number) ?_ now
      intro later _ _ now
      have fewer : number < last := by omega
      refine Fallible.keeps_bind_of (pauses number later fewer now) (fun _ _ never => never.elim) ?_
      intro later _ now
      exact ih (by omega) now

/-- Each attempt leaves things as they were before it, if another one may follow. -/
theorem attemptsFrom_keeps_of {more : Nat} (holds : σ → Prop)
    (prepares : ∀ state, holds state → Call.prepare.run.Keeps protocol
      (ends (fun later _ => holds later) (fun later error => post later (.error error))) state)
    (attempts : ∀ number state, holds state →
      (Call.own (c.attempt sql withRows number)).run.Keeps protocol
        (fun later outcome => post later outcome ∧
          ∀ error, outcome = .error error → error.isRetryable = true → holds later) state)
    (pauses : ∀ state, holds state → (Call.own c.pause).run.Keeps protocol
      (ends (fun later _ => holds later) (fun _ _ => False)) state)
    (exhausts : ∀ number state error, holds state →
      post state (.error (.retriesExhausted number error)))
    (now : holds state) :
    (c.attemptsFrom sql withRows number more).run.Keeps protocol post state :=
  c.attemptsFrom_keeps_at (fun _ => holds) (fun _ => holds) (fun _ => holds)
    (fun _ => prepares) attempts (fun _ state _ => pauses state)
    (fun state error _ => exhausts _ state error) rfl now

end

end AthenaModels.Client
