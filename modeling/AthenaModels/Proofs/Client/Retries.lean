import AthenaModels.Proofs.Client.Ledger
import AthenaModels.Proofs.Program.Prolongation

/-! Clients that differ in how often they retry: they do the same until one of them has no attempts
left. -/

namespace AthenaModels.Client

open Fallible Program Warehouse

def withRetries (c : Client) (retries : Nat) : Client :=
  { c with profile := { c.profile with retries := retries } }

variable (c : Client) {retries : Nat} {sql : String} {withRows : Bool}

abbrev Extends {S : Service} {α : Type} (longer shorter : Fallible S α) : Prop :=
  Prolongs (·.isExhaustion = true) longer shorter

theorem maxAttempts_le (more : c.profile.retries ≤ retries) :
    c.maxAttempts ≤ (c.withRetries retries).maxAttempts :=
  Nat.le_min.mpr ⟨Nat.le_trans (Nat.min_le_left _ _) (Nat.succ_le_succ more), Nat.min_le_right _ _⟩

theorem pollFrom_extends (more : c.profile.retries ≤ retries) (id : String)
    (start patience failures : Nat) :
    Extends ((c.withRetries retries).pollFrom id start patience failures)
      (c.pollFrom id start patience failures) := by
  induction patience generalizing failures with
  | zero => exact .refl _
  | succ patience ih =>
      have paused : ∀ failures, Extends
          (do (c.withRetries retries).pause
              (c.withRetries retries).pollFrom id start patience failures)
          (do c.pause
              c.pollFrom id start patience failures) :=
        fun failures => (Prolongs.refl c.pause).bind fun _ => ih failures
      refine (Prolongs.refl (Work.status id).outcome).bind fun reply => ?_
      cases reply with
      | error error =>
          dsimp only
          by_cases final : (!error.isRetryable) = true
          · rw [if_pos final, if_pos final]
            exact .refl _
          · rw [if_neg final, if_neg final]
            by_cases many : c.maxAttempts ≤ failures + 1
            · rw [if_pos many]
              exact .of_throw rfl
            · -- The comparison with the greater limit goes the same way.
              have few : ¬ (c.withRetries retries).maxAttempts ≤ failures + 1 :=
                fun reached => many (Nat.le_trans (c.maxAttempts_le more) reached)
              rw [if_neg many, if_neg few]
              exact paused (failures + 1)
      | ok status =>
          dsimp only
          cases status.state with
          | succeeded => exact .refl _
          | failed => exact .refl _
          | cancelled => exact .refl _
          | queued => exact (Prolongs.refl (c.stopOverdue id start)).bind fun _ => paused 0
          | running => exact (Prolongs.refl (c.stopOverdue id start)).bind fun _ => paused 0

theorem poll_extends (more : c.profile.retries ≤ retries) (id : String) :
    Extends ((c.withRetries retries).poll id) (c.poll id) := by
  have polled := fun start => c.pollFrom_extends more id start c.patience 0
  have same : (c.withRetries retries).profile.timeout = c.profile.timeout := rfl
  rw [poll, poll, same]
  cases c.profile.timeout with
  | none => exact polled 0
  | some limit => exact (Prolongs.refl Work.clock).bind polled

theorem attempt_extends (more : c.profile.retries ≤ retries) (number : Nat) :
    Extends ((c.withRetries retries).attempt sql withRows number)
      (c.attempt sql withRows number) := by
  refine (Prolongs.refl Work.now).bind fun submittedAt => ?_
  refine (Prolongs.refl (Work.start (c.requestFor sql))).bind fun id => ?_
  exact (c.poll_extends more id).bind fun status => .refl _

theorem settle_extends {again again' : Error → Call Result}
    (onward : ∀ error, Extends (again' error) (again error)) (outcome : Except Error Result) :
    Extends (settle again' outcome) (settle again outcome) := by
  cases outcome with
  | ok result => exact .refl _
  | error error =>
      rw [settle, settle]
      cases error.isRetryable with
      | true => exact onward error
      | false => exact .refl _

theorem attemptThen_extends (more : c.profile.retries ≤ retries) (number : Nat)
    {again again' : Error → Call Result} (onward : ∀ error, Extends (again' error) (again error)) :
    Extends ((c.withRetries retries).attemptThen sql withRows number again')
      (c.attemptThen sql withRows number again) := by
  rw [attemptThen_eq, attemptThen_eq]
  refine (Prolongs.refl Call.prepare).bind fun _ => ?_
  refine (c.attempt_extends more number).translate.outcome_bind ?_ (settle_extends onward)
  intro error spent
  cases error <;> first | rfl | cases spent

theorem attemptsFrom_extends (more : c.profile.retries ≤ retries) {left left' : Nat}
    (fewer : left ≤ left') (number : Nat) :
    Extends ((c.withRetries retries).attemptsFrom sql withRows number left')
      (c.attemptsFrom sql withRows number left) := by
  induction left generalizing number left' with
  | zero =>
      cases left' with
      | zero => exact c.attemptThen_extends more number fun error => .of_throw rfl
      | succ left' => exact c.attemptThen_extends more number fun error => .of_throw rfl
  | succ left ih =>
      obtain ⟨left', rfl⟩ : ∃ other, left' = other + 1 := ⟨left' - 1, by omega⟩
      refine c.attemptThen_extends more number fun error => ?_
      exact (Prolongs.refl (Call.own c.pause)).bind fun _ =>
        ih (Nat.le_of_succ_le_succ fewer) (number + 1)

theorem attempts_extend (more : c.profile.retries ≤ retries) :
    Extends ((c.withRetries retries).attempts sql withRows) (c.attempts sql withRows) :=
  c.attemptsFrom_extends more (Nat.sub_le_sub_right (c.maxAttempts_le more) 1) 1

theorem statementCall_extends (more : c.profile.retries ≤ retries) :
    Extends ((c.withRetries retries).statementCall sql) (c.statementCall sql) :=
  (c.attempts_extend more).bind fun _ => .refl _

/-- More retries change nothing of a call that does not run out of them: whatever the warehouse and
the preparations do, it asks for the same and ends in the same way. -/
theorem repeats_with_retries (c : Client) (sql : String) {retries : Nat}
    (more : c.profile.retries ≤ retries) :
    (∀ withRows, Repeats (·.isExhaustion = true) ((c.withRetries retries).attempts sql withRows)
      (c.attempts sql withRows)) ∧
    Repeats (·.isExhaustion = true) ((c.withRetries retries).statementCall sql)
      (c.statementCall sql) ∧
    Repeats (·.isExhaustion = true) ((c.withRetries retries).execute sql) (c.execute sql) ∧
    Repeats (·.isExhaustion = true) ((c.withRetries retries).executeStatement sql)
      (c.executeStatement sql) ∧
    ∀ preparation, Repeats (·.isExhaustion = true)
      ((c.withRetries retries).executePrepared preparation sql)
      (c.executePrepared preparation sql) := by
  refine ⟨?_, ?_, ?_, ?_, ?_⟩
  · exact fun withRows => (c.attempts_extend more).repeats
  · exact (c.statementCall_extends more).repeats
  · exact (c.attempts_extend more).translate.repeats
  · exact (c.statementCall_extends more).translate.repeats
  · exact fun preparation => (c.statementCall_extends more).translate.repeats

theorem repeats_with_four_retries :
    let c : Client := ⟨{ Profile.ofRequired "s3://b/" "r" "s" "d" with retries := 1 }, 1⟩
    let preparation : Work Unit := do let _ ← Work.deletePrefix "s3://b/tmp/"
    let prepared := (c.executePrepared preparation "SELECT 1").run.play failingAnswers 0
    c.profile.retries ≤ 4 ∧ starts prepared.1 = 2 ∧ prepared.2.ended? = some true ∧
      ((c.withRetries 4).executePrepared preparation "SELECT 1").run.play failingAnswers 0 =
        prepared := by
  intro c preparation prepared
  have ended : prepared.2.ended? = some true := by decide +kernel
  obtain ⟨metadata, done⟩ := eq_ok_of_ended? ended
  obtain ⟨_, _, _, _, repeats⟩ := c.repeats_with_retries "SELECT 1" (by decide : _ ≤ 4)
  exact ⟨by decide, by decide +kernel, ended,
    repeats preparation Nat failingAnswers 0 (.ok metadata) done nofun⟩

end AthenaModels.Client
