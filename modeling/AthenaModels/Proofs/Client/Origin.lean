import AthenaModels.Proofs.Client.Accounting
import AthenaModels.Proofs.Client.Requests
import AthenaModels.Proofs.Client.Resubmission
import AthenaModels.Proofs.Materialization.Statements
import AthenaModels.Proofs.Program.Position

namespace AthenaModels.Client

open Fallible Materialization Program
open Warehouse (started)

variable {c : Client} {model : Model} {before after : List Warehouse.service.Event}
  {lower : Warehouse.service.Event} {earlier : List Materialization.service.Event}
  {request : Materialization.Request} {sql : String}

/-- An event is part of the carrying out of a request, and what the run asked for earlier has been
carried out before. -/
structure Origin (c : Client) (model : Model) (before : List Warehouse.service.Event)
    (lower : Warehouse.service.Event) (earlier : List Materialization.service.Event)
    (request : Materialization.Request) : Prop where
  asks : Asks c.profile model earlier request
  serves : c.Serves request lower.request
  part : ∃ carried start left, before = carried ++ start ∧ Expands c.carryOut earlier carried ∧
    Runs (c.carryOut request) (start ++ [lower]) left

theorem origin_of_runs {rest : Program Warehouse.service (Except Error Summary)}
    (ran : Runs (c.materialize model).run (before ++ lower :: after) rest) :
    ∃ earlier request, Origin c model before lower earlier request := by
  obtain ⟨earlier, request, next, carried, start, left, asked, expands, rfl, served, _⟩ :=
    ran.served_at
  have asks : Runs (ExceptT.run (run c.profile model)) earlier (.ask request next) := asked
  refine ⟨earlier, request, ?_, ?_, carried, start, left, rfl, expands, served⟩
  · exact ((run_keeps c.profile model).run asks (Protocol.steps_ofPast_iff.mpr rfl)).1
  · exact (c.carryOut_makes request).allowed_of_mem served
      (List.mem_append_right _ List.mem_cons_self)

theorem statement_of_serves {query : QueryRequest} (serves : c.Serves request (.start query)) :
    statement? request = some query.sql := by
  cases request with
  | query sql =>
      cases serves
      rfl
  | statement sql =>
      cases serves
      rfl
  | fill sql location =>
      rcases serves with serves | serves
      · cases serves
        rfl
      · cases serves
  | _ => cases serves

theorem started_of_attempt {withRows : Bool} {number : Nat}
    {trace : List Warehouse.service.Event} {outcome : Except Error Result}
    (ran : Runs (c.attempt sql withRows number).run trace (.done outcome)) :
    ∃ reply, started (c.requestFor sql) reply ∈ trace := by
  obtain ⟨_, before, after, rfl, dated, rest⟩ := runs_bind_lift ran
  rcases runs_bind rest with ⟨error, _, refused⟩ | ⟨id, submission, later, rfl, accepted, _⟩
  · rw [runs_request refused]
    exact ⟨.error error, List.mem_append_right _ List.mem_cons_self⟩
  · rw [runs_request accepted]
    exact ⟨.ok id, List.mem_append_right _ (List.mem_append_left _ List.mem_cons_self)⟩

theorem started_of_round {withRows : Bool} {number : Nat} {trace : List Warehouse.service.Event}
    {events : List Call.service.Event} {outcome : Except Error Result}
    (ran : Runs (c.attempt sql withRows number).run trace (.done outcome)) :
    ∃ reply, started (c.requestFor sql) reply ∈ Call.ownEvents (events ++ round trace) := by
  obtain ⟨reply, member⟩ := started_of_attempt ran
  refine ⟨reply, ?_⟩
  rw [Call.ownEvents_append]
  refine List.mem_append_right _ ?_
  change _ ∈ Call.ownEvents (trace.map Call.owned)
  rwa [Call.ownEvents_map_owned]

/-- Attempts that need no preparation have submitted their statement when they are over. -/
theorem started_of_attempts {withRows : Bool} {trace : List Warehouse.service.Event}
    {events : List Call.service.Event} {outcome : Except Error Result}
    (attempted : Runs (c.attempts sql withRows).run events (.done outcome))
    (expands : Expands (Call.carryOut (pure ())) events trace) :
    ∃ reply, started (c.requestFor sql) reply ∈ trace := by
  rw [Call.expands_unprepared expands]
  cases ended_of_runs attempted with
  | unprepared =>
      obtain ⟨_, part, _, _, prepared⟩ :=
        expands.part_of_mem (List.mem_append_right _ List.mem_cons_self)
      cases (runs_done.mp prepared).2
  | decided _ _ ran _ => exact started_of_round ran
  | exhausted _ _ ran _ => exact started_of_round ran

theorem started_of_executeStatement {trace : List Warehouse.service.Event}
    {outcome : Except Error Metadata}
    (ran : Runs (c.executeStatement sql).run trace (.done outcome)) :
    ∃ reply, started (c.requestFor sql) reply ∈ trace := by
  obtain ⟨events, called, expands⟩ := Runs.carried ran
  obtain ⟨_, _, attempted⟩ := attempts_of_statementCall called
  exact started_of_attempts attempted expands

/-- The text of a request that is executed without a preparation. -/
def executed? : Materialization.Request → Option String
  | .query sql | .statement sql => some sql
  | _ => none

def submitted? : Warehouse.service.Event → Option QueryRequest
  | ⟨.start query, _⟩ => some query
  | _ => none

theorem started_of_carryOut {trace : List Warehouse.service.Event}
    {reply : Materialization.Reply request} (text : executed? request = some sql)
    (ran : Runs (c.carryOut request) trace (.done reply)) :
    ∃ reply, started (c.requestFor sql) reply ∈ trace := by
  cases request with
  | query sql =>
      cases text
      obtain ⟨events, attempted, expands⟩ := Runs.carried ran
      exact started_of_attempts attempted expands
  | statement sql =>
      cases text
      exact started_of_executeStatement ran
  | _ => cases text

theorem submits_in_order {events : List Materialization.service.Event}
    {trace : List Warehouse.service.Event} (expands : Expands c.carryOut events trace) :
    ((events.filterMap (executed? ·.request)).map c.requestFor).Sublist
      (trace.filterMap submitted?) := by
  induction expands with
  | nil => exact .refl []
  | @cons event events part trace ran _ ih =>
      rw [List.filterMap_append, List.filterMap_cons]
      cases text : executed? event.request with
      | none => exact ih.trans (List.sublist_append_right _ _)
      | some sql =>
          obtain ⟨reply, member⟩ := started_of_carryOut text ran
          have here : c.requestFor sql ∈ part.filterMap submitted? :=
            List.mem_filterMap.mpr ⟨_, member, rfl⟩
          exact (List.singleton_sublist.mpr here).append ih

end AthenaModels.Client
