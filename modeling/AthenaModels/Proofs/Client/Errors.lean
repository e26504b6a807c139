import AthenaModels.Client.Materialization
import AthenaModels.Proofs.Program.Errors

namespace AthenaModels

def Error.isConfig : Error → Bool
  | .config _ => true
  | _ => false

namespace Warehouse

def error? : service.Event → Option Error
  | ⟨.start _, .error error⟩ => some error
  | ⟨.status _, .error error⟩ => some error
  | ⟨.page _ _, .error error⟩ => some error
  | ⟨.stop _, .error error⟩ => some error
  | ⟨.deleteObjects _, .error error⟩ => some error
  | ⟨.deletePrefix _, .error error⟩ => some error
  | _ => none

def Blameless (event : service.Event) : Prop :=
  ∀ error, error? event = some error → error.isConfig = false

end Warehouse

namespace Call

def Blameless : service.Event → Prop
  | ⟨.own r, reply⟩ => Warehouse.Blameless ⟨r, reply⟩
  | ⟨.prepare, reply⟩ => ∀ error, reply = .error error → error.isConfig = false

end Call

namespace Materialization

def error? : service.Event → Option Error
  | ⟨.query _, .error error⟩ => some error
  | ⟨.statement _, .error error⟩ => some error
  | ⟨.fill _ _, .error error⟩ => some error
  | ⟨.deleteObjects _, .error error⟩ => some error
  | ⟨.deletePrefix _, .error error⟩ => some error
  | _ => none

def Blameless (event : service.Event) : Prop :=
  ∀ error, error? event = some error → error.isConfig = false

end Materialization

namespace Client

open Fallible Program

variable (c : Client)

/-- Configuration errors are only passed on. -/
def Passes {α : Type} (work : Work α) : Prop :=
  Raises Warehouse.Blameless (fun error => error.isConfig = false) work

variable {id : String} {α : Type}

theorem start_passes (query : QueryRequest) : Passes (Work.start query) :=
  raises_request rfl fun _ error blameless same => blameless error (by cases same; rfl)

theorem status_passes : Passes (Work.status id) :=
  raises_request rfl fun _ error blameless same => blameless error (by cases same; rfl)

theorem page_passes {token : Option String} : Passes (Work.page id token) :=
  raises_request rfl fun _ error blameless same => blameless error (by cases same; rfl)

theorem deletePrefix_passes {location : String} : Passes (Work.deletePrefix location) :=
  raises_request rfl fun _ error blameless same => blameless error (by cases same; rfl)

theorem stopOverdue_passes {start : Nat} : Passes (c.stopOverdue id start) := by
  unfold stopOverdue
  cases c.profile.timeout with
  | none => exact raises_pure
  | some limit =>
      refine raises_bind raises_lift fun now => ?_
      split
      · exact raises_bind raises_lift fun _ => raises_throw rfl
      · exact raises_pure

theorem pollFrom_passes {start patience failures : Nat} :
    Passes (c.pollFrom id start patience failures) := by
  induction patience generalizing failures with
  | zero => exact raises_exhausted
  | succ patience ih =>
      have again : ∀ failures, Passes (do c.pause; c.pollFrom id start patience failures) :=
        fun failures => raises_bind raises_lift fun _ => ih
      refine raises_bind_outcome status_passes fun reply passed => ?_
      cases reply with
      | error error =>
          -- The error of a look is passed on as it is, or inside one that blames no configuration.
          dsimp only
          split
          · exact raises_throw (passed error rfl)
          · split
            · exact raises_throw rfl
            · exact again _
      | ok status =>
          dsimp only
          split
          · exact raises_pure
          · exact raises_throw rfl
          · exact raises_throw rfl
          · exact raises_bind c.stopOverdue_passes fun _ => again 0
          · exact raises_bind c.stopOverdue_passes fun _ => again 0

theorem poll_passes : Passes (c.poll id) := by
  unfold poll
  split
  · exact raises_bind raises_lift fun _ => c.pollFrom_passes
  · exact c.pollFrom_passes

theorem pagesFrom_passes {patience : Nat} {token : Option String} :
    Passes (pagesFrom id patience token) := by
  induction patience generalizing token with
  | zero => exact raises_exhausted
  | succ patience ih =>
      refine raises_bind page_passes fun page => ?_
      split
      · exact raises_pure
      · exact raises_bind ih fun _ => raises_pure

theorem attempt_passes {sql : String} {withRows : Bool} {number : Nat} :
    Passes (c.attempt sql withRows number) := by
  refine raises_bind raises_lift fun submittedAt => ?_
  refine raises_bind (start_passes _) fun id => ?_
  refine raises_bind c.poll_passes fun status => ?_
  dsimp only
  split
  · refine raises_bind pagesFrom_passes fun pages => ?_
    refine raises_ofExcept fun error refused => ?_
    obtain ⟨text, rfl⟩ := Page.malformed_of_merge refused
    rfl
  · exact raises_pure

def CallPasses (call : Call α) : Prop :=
  Raises Call.Blameless (fun error => error.isConfig = false) call

theorem own_passes {work : Work α} (passes : Passes work) : CallPasses (Call.own work) := by
  refine raises_translate passes ?_
  intro request part reply ran blameless
  cases runs_request ran
  exact blameless _ List.mem_cons_self

theorem attemptThen_passes {sql : String} {withRows : Bool} {number : Nat}
    {again : Error → Call Result} (next : ∀ error, CallPasses (again error)) :
    CallPasses (c.attemptThen sql withRows number again) := by
  have prepared : CallPasses Call.prepare :=
    raises_request rfl fun _ error blameless same => blameless error same
  refine raises_bind prepared fun _ => ?_
  refine raises_bind_outcome (own_passes c.attempt_passes) fun outcome passed => ?_
  cases outcome with
  | ok => exact raises_pure
  | error error =>
      dsimp only
      split
      · exact next error
      · exact raises_throw (passed error rfl)

theorem attemptsFrom_passes {sql : String} {withRows : Bool} {number more : Nat} :
    CallPasses (c.attemptsFrom sql withRows number more) := by
  induction more generalizing number with
  | zero => exact c.attemptThen_passes fun _ => raises_throw rfl
  | succ more ih =>
      refine c.attemptThen_passes fun _ => ?_
      exact raises_bind (own_passes raises_lift) fun _ => ih

theorem statementCall_passes {sql : String} : CallPasses (c.statementCall sql) :=
  raises_bind c.attemptsFrom_passes fun _ => raises_pure

theorem prepared_passes {call : Call α} {preparation : Work Unit} (passes : CallPasses call)
    (prepares : Passes preparation) : Passes (call.prepared preparation) := by
  refine raises_translate passes ?_
  intro request part reply ran blameless
  cases request with
  | own r =>
      cases runs_request ran
      exact blameless _ List.mem_cons_self
  | prepare =>
      intro error same
      subst same
      exact prepares part error ran blameless

theorem blameless_carryOut (request : Materialization.Request)
    {part : List Warehouse.service.Event} {reply : Materialization.Reply request}
    (ran : Runs (c.carryOut request) part (.done reply))
    (blameless : ∀ event ∈ part, Warehouse.Blameless event) :
    Materialization.Blameless ⟨request, reply⟩ := by
  have unprepared : Passes (pure () : Work Unit) := raises_pure
  intro error same
  cases request with
  | query sql =>
      cases reply with
      | ok => cases same
      | error =>
          cases same
          exact prepared_passes c.attemptsFrom_passes unprepared part error ran blameless
  | statement sql =>
      cases reply with
      | ok => cases same
      | error =>
          cases same
          exact prepared_passes c.statementCall_passes unprepared part error ran blameless
  | fill sql location =>
      have empties : Passes (do let _ ← Work.deletePrefix location) :=
        raises_bind deletePrefix_passes fun _ => raises_pure
      cases reply with
      | ok => cases same
      | error =>
          cases same
          exact prepared_passes c.statementCall_passes empties part error ran blameless
  | deleteObjects uris =>
      cases runs_request ran
      exact blameless _ List.mem_cons_self error (by cases reply <;> exact same)
  | deletePrefix location =>
      cases runs_request ran
      exact blameless _ List.mem_cons_self error (by cases reply <;> exact same)
  | freshSuffix => cases same
  | freshUuid => cases same

end Client
end AthenaModels
