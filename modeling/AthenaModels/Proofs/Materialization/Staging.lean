import AthenaModels.Proofs.Materialization.Configuration
import AthenaModels.Proofs.Materialization.Requests

namespace AthenaModels.Materialization

open Fallible Program

variable {profile : Profile} {model : Model} {suffix sql location : String}
  {before after events : List service.Event} {event : service.Event}
  {rest : Program service (Except Error Summary)} {outcome : Except Error Summary}

theorem asks_of_runs
    (ran : Runs (ExceptT.run (run profile model)) (before ++ event :: after) rest) :
    Asks profile model before event.request :=
  (run_keeps profile model).allowed ran (Protocol.steps_ofPast_iff.mpr rfl)

theorem asks_of_mem (ran : Runs (ExceptT.run (run profile model)) events rest)
    (member : event ∈ events) :
    ∃ past later, events = past ++ event :: later ∧ Asks profile model past event.request := by
  obtain ⟨past, later, rfl⟩ := List.append_of_mem member
  exact ⟨past, later, rfl, asks_of_runs ran⟩

theorem not_present_of_missing (present : Present model events) : ¬ Missing model events := by
  rintro ⟨_, _, rfl, none⟩
  obtain ⟨_, _, same, some⟩ := present
  obtain ⟨head, rfl⟩ := List.cons.inj same
  cases head
  exact some none

theorem present_of_drawn (ran : Runs (ExceptT.run (run profile model)) events rest)
    (drawn : ⟨.freshSuffix, suffix⟩ ∈ events) : Present model events := by
  obtain ⟨past, later, rfl, asks⟩ := asks_of_mem ran drawn
  cases asks with
  | suffix present _ => exact present.append _
  | write _ writes => cases writes

theorem drawn_once {other : String} (ran : Runs (ExceptT.run (run profile model)) events rest)
    (first : ⟨.freshSuffix, suffix⟩ ∈ events) (second : ⟨.freshSuffix, other⟩ ∈ events) :
    suffix = other := by
  have undrawn : ∀ {past later name}, events = past ++ ⟨.freshSuffix, name⟩ :: later →
      ∀ suffix, ⟨.freshSuffix, suffix⟩ ∉ past := by
    rintro past later name rfl
    cases asks_of_runs ran with
    | suffix _ undrawn => exact undrawn
    | write _ writes => cases writes
  obtain ⟨past, later, rfl⟩ := List.append_of_mem first
  rcases List.mem_append.mp second with early | late
  · exact absurd early (undrawn rfl other)
  · rcases List.mem_cons.mp late with same | late
    · cases same
      rfl
    · obtain ⟨more, rest, rfl⟩ := List.append_of_mem late
      have split : past ++ ⟨.freshSuffix, suffix⟩ :: (more ++ ⟨.freshSuffix, other⟩ :: rest) =
          (past ++ ⟨.freshSuffix, suffix⟩ :: more) ++ ⟨.freshSuffix, other⟩ :: rest := by simp
      exact absurd (List.mem_append_right _ List.mem_cons_self) (undrawn split suffix)

theorem staged_of_fill {reply : Except Error Metadata}
    (ran : Runs (ExceptT.run (run profile model)) events rest)
    (drawn : ⟨.freshSuffix, suffix⟩ ∈ events) (filled : ⟨.fill sql location, reply⟩ ∈ events) :
    location = stagingLocation profile (model.relation.staging suffix) ∧
      stagingCreation profile model suffix = .ok sql := by
  obtain ⟨past, later, rfl, asks⟩ := asks_of_mem ran filled
  have present := present_of_drawn ran drawn
  dsimp only at asks
  generalize request : Request.fill sql location = asked at asks
  cases asks with
  | create placed => exact absurd (placed.missing.append _) (not_present_of_missing present)
  | stage named made =>
      cases request
      rw [drawn_once ran drawn (List.mem_append_left _ named.drawn)]
      exact ⟨rfl, made⟩
  | write _ writes =>
      subst request
      cases writes
  | _ => cases request

/-- What a run with a staging table does in the end, whatever has come out by then. -/
def cleaningUp (profile : Profile) (model : Model) (suffix : String)
    (outcome : Except Error Summary) : Program service (Except Error Summary) :=
  ExceptT.run (do
    dropStaging (model.relation.staging suffix)
      (stagingLocation profile (model.relation.staging suffix))
    Fallible.ofExcept outcome)

theorem outcome_of_cleaningUp {last : Except Error Summary}
    (ran : Runs (cleaningUp profile model suffix outcome) events (.done last)) : last = outcome :=
  (dropStaging_winds ran).outcome_eq

theorem runs_drawName {drawn : String × String}
    (ran : Runs (ExceptT.run (drawName profile model)) events (.done (.ok drawn))) :
    events = [⟨.freshSuffix, drawn.1⟩] := by
  rw [run_drawName] at ran
  rcases runs_ask.mp ran with ⟨_, same⟩ | ⟨suffix, later, rfl, complete⟩
  · cases same
  · obtain ⟨rfl, same⟩ := runs_done.mp complete
    unfold drawReply at same
    split at same
    · cases same
    · cases same
      rfl

theorem events_of_cleaningUp {last : Except Error Summary}
    (ran : Runs (cleaningUp profile model suffix outcome) events (.done last)) :
    ∃ dropped emptied, events =
      [⟨.statement (Sql.dropTable (model.relation.staging suffix)), dropped⟩,
      ⟨.deletePrefix (stagingLocation profile (model.relation.staging suffix)), emptied⟩] := by
  rcases runs_ask.mp ran with ⟨_, same⟩ | ⟨dropped, later, rfl, second⟩
  · cases same
  · rcases runs_ask.mp second with ⟨_, same⟩ | ⟨emptied, later, rfl, third⟩
    · cases same
    · obtain ⟨rfl, _⟩ := runs_ofExcept third
      exact ⟨dropped, emptied, rfl⟩

/-- Before a run that adds to a table ends, it comes to the cleaning up, unless its staging table
cannot be created. -/
theorem cleans_of_updateTarget {strategy : Strategy}
    (ran : Runs (ExceptT.run (updateTarget profile model strategy)) events (.done outcome)) :
    (∃ suffix, events = [⟨.freshSuffix, suffix⟩]) ∨
      ∃ suffix early late, events = early ++ late ∧ ⟨.freshSuffix, suffix⟩ ∈ early ∧
        Runs (ExceptT.run (updateTarget profile model strategy)) early
          (cleaningUp profile model suffix outcome) ∧
        Runs (cleaningUp profile model suffix outcome) late (.done outcome) := by
  rw [updateTarget_eq] at ran ⊢
  rcases runs_bind ran with ⟨_, _, failed⟩ | ⟨drawn, naming, after, rfl, named, rest⟩
  · rw [run_drawName] at failed
    rcases runs_ask.mp failed with ⟨_, same⟩ | ⟨suffix, later, rfl, complete⟩
    · cases same
    · obtain ⟨rfl, _⟩ := runs_done.mp complete
      exact .inl ⟨suffix, rfl⟩
  · obtain ⟨written, writing, late, rfl, wrote, cleaned⟩ := runs_bind_outcome rest
    have cleaned : Runs (cleaningUp profile model drawn.1 written) late (.done outcome) := cleaned
    cases outcome_of_cleaningUp cleaned
    cases runs_drawName named
    refine .inr ⟨drawn.1, _, late, (List.append_assoc _ _ _).symm, List.mem_cons_self, ?_, cleaned⟩
    exact runs_bind_ok named (runs_outcome_bind wrote)

theorem updates_of_run (ran : Runs (ExceptT.run (run profile model)) events rest)
    (present : Present model events) :
    ∃ strategy result later,
      events = ⟨.query (Sql.tableExists model.relation), .ok result⟩ :: later ∧
      Runs (ExceptT.run (updateTarget profile model strategy)) later rest ∧
      ∀ others last, Runs (ExceptT.run (updateTarget profile model strategy)) others last →
        Runs (ExceptT.run (run profile model))
          (⟨.query (Sql.tableExists model.relation), .ok result⟩ :: others) last := by
  obtain ⟨result, later, rfl, some⟩ := present
  cases valid : model.incremental.validate with
  | error error =>
      rw [run_of_error (.inl valid)] at ran
      cases (runs_done.mp ran).1
  | ok strategy =>
      cases settings : model.table.validate with
      | error error =>
          rw [run_of_error (.inr ⟨strategy, valid, settings⟩)] at ran
          cases (runs_done.mp ran).1
      | ok =>
          rw [run_of_valid valid settings] at ran ⊢
          have taken : (if !result.rows.isEmpty then updateTarget profile model strategy
              else createTarget profile model strategy) = updateTarget profile model strategy :=
            if_pos (by simp [some])
          rcases runs_ask.mp ran with ⟨none, _⟩ | ⟨reply, rest, same, answered⟩
          · cases none
          · cases same
            have continued : Runs (ExceptT.run (if !result.rows.isEmpty
                then updateTarget profile model strategy
                else createTarget profile model strategy)) later _ := answered
            rw [taken] at continued
            refine ⟨strategy, result, later, rfl, continued, ?_⟩
            intro others last again
            rw [← taken] at again
            exact .answer again

theorem cleans_of_run (ran : Runs (ExceptT.run (run profile model)) events (.done outcome))
    (drawn : ⟨.freshSuffix, suffix⟩ ∈ events) :
    (∃ result, events = begins model result suffix) ∨
      ∃ early late, events = early ++ late ∧
        Runs (ExceptT.run (run profile model)) early (cleaningUp profile model suffix outcome) ∧
        Runs (cleaningUp profile model suffix outcome) late (.done outcome) := by
  obtain ⟨strategy, result, later, rfl, updates, again⟩ :=
    updates_of_run ran (present_of_drawn ran drawn)
  rcases cleans_of_updateTarget updates with
    ⟨name, rfl⟩ | ⟨name, early, late, rfl, named, reached, cleaned⟩
  · refine .inl ⟨result, ?_⟩
    rw [drawn_once ran drawn (List.mem_cons_of_mem _ List.mem_cons_self)]
    rfl
  · rw [drawn_once ran drawn (List.mem_cons_of_mem _ (List.mem_append_left _ named))]
    exact .inr ⟨_, late, rfl, again early _ reached, cleaned⟩

end AthenaModels.Materialization
