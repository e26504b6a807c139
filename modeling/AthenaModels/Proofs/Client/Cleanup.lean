import AthenaModels.Proofs.Client.Overwriting
import AthenaModels.Proofs.Client.Origin
import AthenaModels.Proofs.Materialization.Staging

namespace AthenaModels.Client

open Materialization Program
open Warehouse (started)

variable {c : Client} {model : Model} {suffix : String}
  {trace dropping : List Warehouse.service.Event}
  {events : List Materialization.service.Event} {outcome : Except Error Summary}
  {dropped : Except Error Metadata}

abbrev stagingPlace (c : Client) (model : Model) (suffix : String) : String :=
  stagingLocation c.profile (model.relation.staging suffix)

/-- A statement that drops the staging table has been executed, with or without success. -/
abbrev Drops (c : Client) (model : Model) (suffix : String)
    (dropping : List Warehouse.service.Event) : Prop :=
  ∃ dropped, Runs (c.executeStatement (Sql.dropTable (model.relation.staging suffix))).run dropping
    (.done dropped)

theorem runs_cleaningUp (drops : c.Drops model suffix dropping) (emptied : Except Error Nat) :
    Runs ((cleaningUp c.profile model suffix outcome).translate c.carryOut)
      (dropping ++ [⟨.deletePrefix (c.stagingPlace model suffix), emptied⟩]) (.done outcome) := by
  obtain ⟨dropped, dropping⟩ := drops
  refine dropping.bind_done (.answer ?_)
  cases outcome <;> exact .stop _

theorem drops_of_expands {last : Except Error Summary}
    (ran : Runs (cleaningUp c.profile model suffix outcome) events (.done last))
    (expands : Expands c.carryOut events trace) :
    ∃ dropping emptied,
      trace = dropping ++ [⟨.deletePrefix (c.stagingPlace model suffix), emptied⟩] ∧
        c.Drops model suffix dropping := by
  obtain ⟨dropped, emptied, rfl⟩ := events_of_cleaningUp ran
  cases expands with
  | @cons _ _ dropping _ first later =>
      cases later with
      | cons second nothing =>
          cases nothing
          cases runs_request second
          exact ⟨dropping, emptied, rfl, dropped, first⟩

theorem drawn_of_mem (expands : Expands c.carryOut events trace)
    (drawn : ⟨.freshSuffix, suffix⟩ ∈ trace) : ⟨.freshSuffix, suffix⟩ ∈ events := by
  obtain ⟨⟨request, reply⟩, listed, part, ran, member⟩ := expands.exists_of_mem drawn
  have serves := (c.carryOut_makes request).allowed_of_mem ran member
  cases request with
  | freshSuffix =>
      rw [runs_request ran] at member
      cases List.mem_singleton.mp member
      exact listed
  | fill => rcases serves with serves | serves <;> cases serves
  | _ => cases serves

theorem place_of_created {query : QueryRequest} {reply : Except Error String}
    (ran : Runs (ExceptT.run (run c.profile model)) events (.done outcome))
    (expands : Expands c.carryOut events trace) (drawn : ⟨.freshSuffix, suffix⟩ ∈ trace)
    (submitted : started query reply ∈ trace) (creates : Sql.Verb.create.Opens query.sql) :
    Sql.placeOf? (model.relation.staging suffix) query.sql =
      some (c.stagingPlace model suffix) := by
  obtain ⟨⟨request, answer⟩, listed, part, carried, member⟩ := expands.exists_of_mem submitted
  have serves := (c.carryOut_makes request).allowed_of_mem carried member
  obtain ⟨past, later, _, asks⟩ := asks_of_mem ran listed
  obtain ⟨_, location, rfl, _⟩ := asks.fills (statement_of_serves serves) creates
  obtain ⟨_, made⟩ := staged_of_fill ran (drawn_of_mem expands drawn) listed
  exact Sql.placeOf?_creation made

/-- A run that has come to its end created only its staging table, and in the end has submitted the
statement that drops that very table, executed it, with or without success, and emptied the very
place that the table was created in; how these two go does not matter. -/
structure CleansUp (c : Client) (model : Model) (suffix : String)
    (trace : List Warehouse.service.Event) (outcome : Except Error Summary) : Prop where
  created : ∀ query reply, started query reply ∈ trace → Sql.Verb.create.Opens query.sql →
    Sql.placeOf? (model.relation.staging suffix) query.sql = some (c.stagingPlace model suffix)
  cleaned : ∃ before dropping emptied,
    trace = before ++ dropping ++ [⟨.deletePrefix (c.stagingPlace model suffix), emptied⟩] ∧
      c.Drops model suffix dropping ∧
      (∃ reply, started (c.requestFor (Sql.dropTable (model.relation.staging suffix))) reply ∈
        dropping) ∧
      ∀ others answer, c.Drops model suffix others →
        Runs (c.materialize model).run
          (before ++ others ++ [⟨.deletePrefix (c.stagingPlace model suffix), answer⟩])
          (.done outcome)

/-- No statement is accepted but the first. -/
def refusingAnswers : (r : Warehouse.Request) → Nat → Warehouse.Reply r × Nat
  | .start _, 0 => (.ok "id", 1)
  | .start _, count => (.error (.service "denied"), count)
  | .page _ _, count => (.ok (dayPage "table_name" ["days"]), count)
  | r, count => ((dayAnswers r "").1, count)

def suffix? : Warehouse.service.Event → Option String
  | ⟨.freshSuffix, suffix⟩ => some suffix
  | _ => none

theorem mem_of_suffix? (drawn : suffix ∈ trace.filterMap suffix?) :
    ⟨.freshSuffix, suffix⟩ ∈ trace := by
  obtain ⟨⟨request, reply⟩, member, some⟩ := List.mem_filterMap.mp drawn
  cases request <;> cases some
  exact member

end AthenaModels.Client
