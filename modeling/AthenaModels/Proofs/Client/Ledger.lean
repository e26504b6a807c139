import AthenaModels.Proofs.Client.Attempt
import AthenaModels.Proofs.Client.Errors
import AthenaModels.Proofs.Client.Loops
import AthenaModels.Proofs.Client.Rounds

namespace AthenaModels

def Error.isExhaustion : Error → Bool
  | .retriesExhausted _ _ => true
  | _ => false

def Warehouse.Unexhausted (event : service.Event) : Prop :=
  ∀ error ∈ error? event, error.isExhaustion = false

instance (event : Warehouse.service.Event) : Decidable (Warehouse.Unexhausted event) :=
  inferInstanceAs (Decidable (∀ error ∈ Warehouse.error? event, error.isExhaustion = false))

namespace Call

def error? : service.Event → Option Error
  | ⟨.own r, reply⟩ => Warehouse.error? ⟨r, reply⟩
  | ⟨.prepare, .error error⟩ => some error
  | ⟨.prepare, .ok _⟩ => none

def Unexhausted (event : service.Event) : Prop :=
  ∀ error ∈ error? event, error.isExhaustion = false

end Call

namespace Client

structure Ledger where
  /-- The preparations that were asked for. -/
  attempts : Nat
  submissions : List (Except Error String)
  query : Option String
  /-- The errors of the looks at it that failed in a row, with the last one first. -/
  failures : List Error
  refusal : Option Error

namespace Ledger

def empty : Ledger := ⟨0, [], none, [], none⟩

def look (ledger : Ledger) : Except Error QueryStatus → Ledger
  | .error error =>
      { ledger with failures := if error.isRetryable then error :: ledger.failures else [] }
  | .ok _ => { ledger with failures := [] }

def next (ledger : Ledger) : Call.service.Event → Ledger
  | ⟨.prepare, .ok _⟩ => { ledger with attempts := ledger.attempts + 1 }
  | ⟨.prepare, .error error⟩ =>
      { ledger with attempts := ledger.attempts + 1, refusal := some error }
  | ⟨.own (.start _), reply⟩ =>
      { ledger with
        submissions := ledger.submissions ++ [reply], query := reply.toOption, failures := [] }
  | ⟨.own (.status id), reply⟩ => if ledger.query = some id then ledger.look reply else ledger
  | _ => ledger

def after (ledger : Ledger) (events : List Call.service.Event) : Ledger := events.foldl next ledger

/-- Nothing is asked for when a preparation has failed, or as many looks in a row as may fail. -/
def protocol (limit : Nat) : Protocol Call.service Ledger where
  allowed ledger request :=
    ledger.refusal = none ∧ ledger.failures.length < limit ∧
      (request = .prepare → ledger.attempts < limit) ∧
      ∀ query, request = .own (.start query) → ledger.submissions.length < limit
  step ledger event later := Call.Unexhausted event ∧ later = ledger.next event

theorem steps_iff {limit : Nat} {ledger last : Ledger} {events : List Call.service.Event} :
    (protocol limit).Steps ledger events last ↔
      (∀ event ∈ events, Call.Unexhausted event) ∧ last = ledger.after events := by
  induction events generalizing ledger with
  | nil =>
      constructor
      · intro steps
        cases steps
        exact ⟨nofun, rfl⟩
      · rintro ⟨_, rfl⟩
        exact .refl _
  | cons event events ih =>
      rw [List.forall_mem_cons]
      constructor
      · intro steps
        cases steps with
        | cons first later =>
            obtain ⟨told, rfl⟩ := first
            obtain ⟨all, rfl⟩ := ih.mp later
            exact ⟨⟨told, all⟩, rfl⟩
      · rintro ⟨⟨told, all⟩, rfl⟩
        exact .cons ⟨told, rfl⟩ (ih.mpr ⟨all, rfl⟩)

inductive Closes {α : Type} (limit : Nat) (ledger : Ledger) : Except Error α → Prop where
  | within {outcome : Except Error α} (few : ledger.failures.length < limit)
      (other : ∀ error, outcome = .error error → error.isExhaustion = false) :
      Closes limit ledger outcome
  | exhausted {error : Error} {earlier : List Error} (failures : ledger.failures = error :: earlier)
      (all : ledger.failures.length = limit) (retryable : error.isRetryable = true) :
      Closes limit ledger (.error (.retriesExhausted limit error))

theorem Closes.throw {α β : Type} {limit : Nat} {ledger : Ledger} {error : Error}
    (closes : Closes limit ledger (.error error : Except Error α)) :
    Closes limit ledger (.error error : Except Error β) := by
  cases closes with
  | within few other =>
      refine .within few ?_
      rintro _ ⟨⟩
      exact other error rfl
  | exhausted failures all retryable => exact .exhausted failures all retryable

end Ledger

open Fallible Program Warehouse

variable (c : Client) {sql id : String} {ledger : Ledger}

theorem poll_keeps_ledger (unrefused : ledger.refusal = none) (current : ledger.query = some id)
    (fresh : ledger.failures = []) :
    (c.poll id).run.Keeps (Call.lowered (Ledger.protocol c.maxAttempts))
      (fun later outcome => later.Closes c.maxAttempts outcome ∧
        (∃ failures, later = { ledger with failures := failures }) ∧
        ∀ status, outcome = .ok status → status.state = .succeeded) ledger := by
  apply c.poll_keeps_of fun failures later => ∃ errors, later = { ledger with failures := errors } ∧
    errors.length = failures ∧ failures < c.maxAttempts
  · rintro failures request _ idles ⟨errors, rfl, rfl, few⟩
    cases request with
    | clock | sleep | stop =>
        refine ⟨⟨unrefused, few, nofun, nofun⟩, ?_⟩
        rintro reply _ ⟨_, rfl⟩
        exact ⟨errors, rfl, rfl, few⟩
    | _ => cases idles
  · rintro failures _ ⟨errors, rfl, rfl, few⟩
    refine ⟨⟨unrefused, few, nofun, nofun⟩, ?_⟩
    rintro reply _ ⟨told, rfl⟩
    have looked : Ledger.next { ledger with failures := errors } (Call.owned ⟨.status id, reply⟩) =
        Ledger.look { ledger with failures := errors } reply := if_pos current
    rw [looked]
    cases reply with
    | error error =>
        rw [Ledger.look]
        refine c.looked_error _ ?_ ?_ ?_
        · intro final
          rw [if_neg (by simp [final])]
          refine ⟨.within maxAttempts_pos ?_, ⟨_, rfl⟩, ?_⟩ <;> rintro _ ⟨⟩
          exact told error rfl
        · intro retryable many
          have all : errors.length + 1 = c.maxAttempts := Nat.le_antisymm few many
          rw [if_pos retryable, all]
          refine ⟨.exhausted rfl all retryable, ⟨_, rfl⟩, ?_⟩
          rintro _ ⟨⟩
        · intro retryable fewer
          rw [if_pos retryable]
          exact ⟨_, rfl, rfl, fewer⟩
    | ok status =>
        simp only [Looked, Ledger.look]
        cases state : status.state with
        | succeeded =>
            refine ⟨.within maxAttempts_pos ?_, ⟨_, rfl⟩, ?_⟩ <;> rintro _ ⟨⟩
            exact state
        | failed | cancelled =>
            refine ⟨.within maxAttempts_pos ?_, ⟨_, rfl⟩, ?_⟩ <;> rintro _ ⟨⟩
            rfl
        | queued | running => exact ⟨[], rfl, rfl, maxAttempts_pos⟩
  · rintro _ limit ⟨errors, rfl, none, few⟩
    have fewer : errors.length < c.maxAttempts := by rwa [none]
    refine ⟨.within fewer ?_, ⟨errors, rfl⟩, ?_⟩ <;> rintro _ ⟨⟩
    rfl
  · exact ⟨ledger.failures, rfl, by rw [fresh]; rfl, maxAttempts_pos⟩

theorem fetch_keeps_ledger (metadata : Metadata) (unrefused : ledger.refusal = none)
    (few : ledger.failures.length < c.maxAttempts) :
    (c.fetch metadata).run.Keeps (Call.lowered (Ledger.protocol c.maxAttempts))
      (ends (fun later result => later = ledger ∧ result.metadata = metadata)
        (fun later error => later = ledger ∧ error.isExhaustion = false)) ledger := by
  have reads : ∀ token state, state = ledger →
      (Call.lowered (Ledger.protocol c.maxAttempts)).allowed state (.page metadata.queryId token) ∧
        ∀ reply later, (Call.lowered (Ledger.protocol c.maxAttempts)).step state
          ⟨.page metadata.queryId token, reply⟩ later →
            ends (fun later _ => later = ledger)
              (fun later error => later = ledger ∧ error.isExhaustion = false) later reply := by
    rintro token _ rfl
    refine ⟨⟨unrefused, few, nofun, nofun⟩, ?_⟩
    rintro reply _ ⟨told, rfl⟩
    cases reply with
    | error error => exact ⟨rfl, told error rfl⟩
    | ok page => rfl
  refine keeps_bind_of (pagesFrom_keeps_of (· = ledger) reads rfl) (fun _ _ failed => failed) ?_
  rintro _ pages rfl
  refine keeps_ofExcept.mpr ?_
  cases merged : Page.merge pages metadata with
  | error error =>
      obtain ⟨text, rfl⟩ := Page.malformed_of_merge merged
      exact ⟨rfl, rfl⟩
  | ok result => exact ⟨rfl, Page.metadata_of_merge merged⟩

theorem attend_keeps_ledger {withRows : Bool} {number : Nat} {submittedAt : Timestamp}
    (unrefused : ledger.refusal = none) (current : ledger.query = some id)
    (fresh : ledger.failures = []) :
    (c.attend withRows number submittedAt id).run.Keeps
      (Call.lowered (Ledger.protocol c.maxAttempts))
      (fun later outcome => later.Closes c.maxAttempts outcome ∧
        (∃ failures, later = { ledger with failures := failures }) ∧
        ∀ result, outcome = .ok result →
          ∃ status, status.state = .succeeded ∧
            result.metadata = metadataOf id status number submittedAt) ledger := by
  refine Fallible.keeps_bind.mpr ((c.poll_keeps_ledger unrefused current fresh).mono ?_)
  rintro later outcome ⟨closes, ⟨failures, same⟩, state⟩
  cases outcome with
  | error error => exact ⟨closes.throw, ⟨failures, same⟩, nofun⟩
  | ok status =>
      have succeeded := state status rfl
      cases closes with
      | within few =>
          cases withRows with
          | false =>
              refine ⟨.within few nofun, ⟨failures, same⟩, ?_⟩
              rintro _ ⟨⟩
              exact ⟨status, succeeded, rfl⟩
          | true =>
              have still : later.refusal = none := by rw [same, unrefused]
              apply keeps_of_ends (c.fetch_keeps_ledger _ still few)
              · rintro _ error ⟨rfl, final⟩
                refine ⟨.within few ?_, ⟨failures, same⟩, nofun⟩
                rintro _ ⟨⟩
                exact final
              · rintro _ result ⟨rfl, read⟩
                refine ⟨.within few nofun, ⟨failures, same⟩, ?_⟩
                rintro _ ⟨⟩
                exact ⟨status, succeeded, read⟩

structure Entered (number : Nat) (ledger later : Ledger) (outcome : Except Error Result) :
    Prop where
  attempts : later.attempts = ledger.attempts
  submissions : later.submissions.length = ledger.submissions.length + 1
  unrefused : later.refusal = none
  closes : later.Closes c.maxAttempts outcome
  succeeded : ∀ result, outcome = .ok result → result.metadata.attempts = number ∧
    later.submissions.getLast? = some (.ok result.metadata.queryId) ∧
    result.metadata.state = .succeeded

theorem attempt_keeps_ledger {withRows : Bool} {number : Nat} (unrefused : ledger.refusal = none)
    (few : ledger.failures.length < c.maxAttempts)
    (unspent : ledger.submissions.length < c.maxAttempts) :
    (c.attempt sql withRows number).run.Keeps (Call.lowered (Ledger.protocol c.maxAttempts))
      (fun later outcome => c.Entered number ledger later outcome) ledger := by
  rw [attempt_eq]
  have dated : (Ledger.protocol c.maxAttempts).allowed ledger (.own .now) :=
    ⟨unrefused, few, nofun, nofun⟩
  refine Fallible.keeps_bind.mpr (keeps_lift.mpr (keeps_request.mpr ⟨dated, ?_⟩))
  rintro submittedAt later ⟨_, same⟩
  rw [show later = ledger from same]
  have submits :
      (Ledger.protocol c.maxAttempts).allowed ledger (.own (.start (c.requestFor sql))) :=
    ⟨unrefused, few, nofun, fun _ _ => unspent⟩
  refine Fallible.keeps_bind.mpr (keeps_request.mpr ⟨submits, ?_⟩)
  rintro reply started ⟨told, entered⟩
  have counted : started.submissions.length = ledger.submissions.length + 1 := by
    rw [entered]
    exact List.length_append
  have still : started.refusal = none := by rw [entered, ← unrefused]; rfl
  cases reply with
  | error error =>
      have few : started.failures.length < c.maxAttempts := by rw [entered]; exact maxAttempts_pos
      refine ⟨by rw [entered]; rfl, counted, still, .within few ?_, nofun⟩
      rintro _ ⟨⟩
      exact told error rfl
  | ok id =>
      have current : started.query = some id := by rw [entered]; rfl
      have fresh : started.failures = [] := by rw [entered]; rfl
      apply (c.attend_keeps_ledger still current fresh).mono
      rintro last outcome ⟨closes, ⟨failures, rfl⟩, read⟩
      refine ⟨by rw [entered]; rfl, counted, still, closes, ?_⟩
      intro result same
      obtain ⟨status, succeeded, metadata⟩ := read result same
      rw [metadata, entered]
      exact ⟨rfl, List.getLast?_concat, succeeded⟩

end Client
end AthenaModels
