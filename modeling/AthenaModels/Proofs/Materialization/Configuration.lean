import AthenaModels.Proofs.Client.Errors
import AthenaModels.Proofs.Materialization.Schedule
import AthenaModels.Proofs.Store.Location
import AthenaModels.Proofs.Table.Creation
import AthenaModels.Proofs.Text.Trimming

namespace AthenaModels

namespace Location

open Text

/-- Nothing but slashes follows the scheme. -/
def IsBare (uri : String) : Prop :=
  ∃ count, uri.toList = scheme.toList ++ List.replicate count '/'

theorem isBare_of_join {base rest : String} (inside : startsWith scheme base = true)
    (outside : startsWith scheme (join base rest) = false) : IsBare base := by
  obtain ⟨tail, split⟩ := startsWith_iff.mp inside
  cases slashes : tail.all (· == '/') with
  | true =>
      have same := List.eq_replicate_of_mem fun letter member =>
        eq_of_beq (List.all_eq_true.mp slashes letter member)
      exact ⟨tail.length, same ▸ split.symm⟩
  | false =>
      have joined : startsWith scheme (join base rest) = true := by
        refine startsWith_iff.mpr
          ⟨tail.rdropWhile (· == '/') ++ '/' :: rest.toList.dropWhile (· == '/'), ?_⟩
        rw [toList_join, ← split, rdropWhile_append, slashes, if_neg Bool.false_ne_true,
          List.append_assoc]
      rw [joined] at outside
      cases outside

end Location

namespace TableConfig

theorem outside_of_validate {location : String} {error : ConfigError}
    (refused : (staging location).validate = .error error) :
    Text.startsWith Location.scheme location = false := by
  have checked : (if Text.startsWith Location.scheme location then Except.ok ()
      else .error (.invalid "external_location" ("expected an s3:// URI, got '" ++ location ++ "'"))) =
      .error error := refused
  cases inside : Text.startsWith Location.scheme location with
  | false => rfl
  | true =>
      rw [if_pos inside] at checked
      cases checked

theorem creation_ok {table : TableConfig} (relation : Relation) (sql location : String)
    (valid : table.validate = .ok ()) : ∃ text, table.creation relation sql location = .ok text :=
  ⟨_, creation_ok_iff.mpr ⟨valid, rfl⟩⟩

end TableConfig

namespace Materialization

open Fallible Program

def Passes {α : Type} (work : Materialization α) : Prop :=
  Raises Blameless (fun error => error.isConfig = false) work

variable {profile : Profile} {model : Model} {sql : String} {table : Relation}

theorem query_passes : Passes (query sql) :=
  raises_request rfl fun _ error blameless same => blameless error (by cases same; rfl)

theorem statement_passes : Passes (statement sql) :=
  raises_request rfl fun _ error blameless same => blameless error (by cases same; rfl)

theorem fill_passes {location : String} : Passes (fill sql location) :=
  raises_request rfl fun _ error blameless same => blameless error (by cases same; rfl)

theorem deleteObjects_passes {uris : List String} : Passes (deleteObjects uris) :=
  raises_request rfl fun _ error blameless same => blameless error (by cases same; rfl)

theorem reading_passes {α : Type} {missing : String} {read? : Result → Option α} :
    Passes (reading sql read? missing) := by
  refine raises_bind query_passes fun result => ?_
  cases read? result with
  | none => exact raises_throw rfl
  | some => exact raises_pure

theorem relationExists_passes : Passes (relationExists table) :=
  raises_bind query_passes fun _ => raises_pure

theorem targetColumns_passes : Passes (targetColumns table) := by
  refine raises_bind reading_passes fun columns => ?_
  dsimp only
  split
  · exact raises_throw rfl
  · exact raises_pure

theorem dropPartitions_passes {partitions : List Partition} :
    Passes (dropPartitions table partitions) := by
  refine raises_bind (raises_mapM fun chunk => reading_passes) fun files => ?_
  refine raises_bind (raises_forM fun chunk => ?_) fun _ => ?_
  · exact raises_bind statement_passes fun _ => raises_pure
  · split
    · exact raises_pure
    · exact deleteObjects_passes

theorem makeRoom_passes {strategy : Strategy} {staging : Relation} :
    Passes (makeRoom model strategy staging) := by
  unfold makeRoom
  split
  · refine raises_bind reading_passes fun incoming => ?_
    refine raises_bind reading_passes fun existing => ?_
    dsimp only
    split
    · exact raises_pure
    · exact raises_bind dropPartitions_passes fun _ => raises_pure
  · cases strategy with
    | append => exact raises_pure
    | insertOverwrite =>
        refine raises_bind reading_passes fun files => ?_
        exact raises_bind deleteObjects_passes fun _ => raises_pure

theorem writeByStaging_passes {strategy : Strategy} {staging : Relation}
    {creation location : String} : Passes (writeByStaging model strategy staging creation location) := by
  refine raises_bind fill_passes fun _ => ?_
  refine raises_bind targetColumns_passes fun columns => ?_
  refine raises_bind makeRoom_passes fun room => ?_
  exact raises_bind statement_passes fun _ => raises_pure

theorem createTarget_passes {strategy : Strategy} (valid : model.table.validate = .ok ()) :
    Passes (createTarget profile model strategy) := by
  have located : Passes (locate profile model.table) := by
    unfold locate
    split
    · exact raises_pure
    · exact raises_bind raises_lift fun _ => raises_pure
  refine raises_bind located fun location => ?_
  obtain ⟨text, created⟩ := TableConfig.creation_ok model.relation model.sql location valid
  rw [created]
  refine raises_bind raises_pure fun creation => ?_
  exact raises_bind fill_passes fun _ => raises_pure

theorem dropStaging_raises {staging : Relation} {location : String} :
    Raises (fun _ => True) (fun _ => False) (dropStaging staging location) :=
  raises_bind raises_lift fun _ => raises_bind raises_lift fun _ => raises_pure

theorem drawReply_error_iff {suffix : String} {error : ConfigError} :
    drawReply profile model suffix = .error (.config error) ↔
      stagingCreation profile model suffix = .error error := by
  rw [drawReply]
  cases stagingCreation profile model suffix <;> simp

theorem error_of_updateTarget {strategy : Strategy} {events : List service.Event}
    {error : ConfigError}
    (ran : Runs (ExceptT.run (updateTarget profile model strategy)) events
      (.done (.error (.config error))))
    (blameless : ∀ event ∈ events, Blameless event) :
    ∃ suffix, events = [⟨.freshSuffix, suffix⟩] ∧
      stagingCreation profile model suffix = .error error := by
  rw [updateTarget_eq] at ran
  rcases runs_bind ran with ⟨_, same, failed⟩ | ⟨drawn, before, after, rfl, _, rest⟩
  · cases same
    rw [run_drawName] at failed
    rcases runs_ask.mp failed with ⟨_, same⟩ | ⟨suffix, later, rfl, complete⟩
    · cases same
    · obtain ⟨rfl, same⟩ := runs_done.mp complete
      exact ⟨suffix, rfl, drawReply_error_iff.mp (Program.done.inj same).symm⟩
  · obtain ⟨outcome, writing, after, rfl, wrote, rest⟩ := runs_bind_outcome rest
    rcases runs_bind rest with ⟨_, _, dropped⟩ | ⟨_, dropping, last, rfl, _, ended⟩
    · exact (dropStaging_raises _ _ dropped fun _ _ => trivial).elim
    · obtain ⟨rfl, rfl⟩ := runs_ofExcept ended
      have passed := writeByStaging_passes writing _ wrote fun event member =>
        blameless event (by simp [member])
      cases passed

theorem updateTarget_of_error (strategy : Strategy) {suffix : String} {error : ConfigError}
    (refused : stagingCreation profile model suffix = .error error) :
    Runs (ExceptT.run (updateTarget profile model strategy)) [⟨.freshSuffix, suffix⟩]
      (.done (.error (.config error))) := by
  rw [updateTarget_eq]
  apply runs_bind_error
  rw [run_drawName]
  refine .answer ?_
  rw [drawReply_error_iff.mpr refused]
  exact .stop _

theorem runs_relationExists {events : List service.Event} {found : Bool} :
    Runs (ExceptT.run (relationExists table)) events (.done (.ok found)) ↔
      ∃ result, events = [⟨.query (Sql.tableExists table), .ok result⟩] ∧
        found = !result.rows.isEmpty := by
  constructor
  · intro ran
    rcases runs_bind ran with ⟨_, same, _⟩ | ⟨result, before, after, rfl, asked, ended⟩
    · cases same
    · cases runs_request asked
      obtain ⟨rfl, same⟩ := runs_done.mp ended
      cases same
      exact ⟨result, rfl, rfl⟩
  · rintro ⟨result, rfl, rfl⟩
    exact .answer (.stop _)

/-- The settings of the model are right, its table is found and a name is drawn, and the place of the
staging table of that name is refused. -/
structure FoundLate (profile : Profile) (model : Model) (result : Result) (suffix : String)
    (error : ConfigError) : Prop where
  named : ∃ strategy, model.incremental.validate = .ok strategy
  settings : model.table.validate = .ok ()
  found : result.rows ≠ []
  refused : stagingCreation profile model suffix = .error error

def begins (model : Model) (result : Result) (suffix : String) : List service.Event :=
  [⟨.query (Sql.tableExists model.relation), .ok result⟩, ⟨.freshSuffix, suffix⟩]

theorem found_late_of_run {events : List service.Event} {error : ConfigError}
    (ran : Runs (ExceptT.run (run profile model)) events (.done (.error (.config error))))
    (asked : events ≠ []) (blameless : ∀ event ∈ events, Blameless event) :
    ∃ result suffix, events = begins model result suffix ∧
      FoundLate profile model result suffix error := by
  cases named : model.incremental.validate with
  | error other =>
      rw [run_of_error (.inl named)] at ran
      exact absurd (runs_done.mp ran).1 asked
  | ok strategy =>
      cases settings : model.table.validate with
      | error other =>
          rw [run_of_error (.inr ⟨strategy, named, settings⟩)] at ran
          exact absurd (runs_done.mp ran).1 asked
      | ok =>
          rw [run_of_valid named settings] at ran
          -- A table that is created has its settings checked already, so only a staging table is left.
          rcases runs_bind ran with ⟨_, same, failed⟩ | ⟨found, before, after, rfl, looked, rest⟩
          · cases same
            cases relationExists_passes events _ failed blameless
          · obtain ⟨early, late⟩ := List.forall_mem_append.mp blameless
            obtain ⟨result, rfl, same⟩ := runs_relationExists.mp looked
            cases rows : result.rows with
            | nil =>
                rw [same, rows] at rest
                cases createTarget_passes settings after _ rest late
            | cons row others =>
                rw [same, rows] at rest
                obtain ⟨suffix, rfl, refused⟩ := error_of_updateTarget rest late
                exact ⟨result, suffix, rfl, ⟨strategy, named⟩, settings, by simp [rows], refused⟩

theorem FoundLate.run {result : Result} {suffix : String} {error : ConfigError}
    (late : FoundLate profile model result suffix error) :
    Runs (ExceptT.run (run profile model)) (begins model result suffix)
      (.done (.error (.config error))) := by
  obtain ⟨strategy, named⟩ := late.named
  rw [run_of_valid named late.settings]
  have looked : Runs (ExceptT.run (relationExists model.relation)) _ (.done (.ok true)) :=
    runs_relationExists.mpr ⟨result, rfl, by simp [late.found]⟩
  exact runs_bind_ok looked (updateTarget_of_error strategy late.refused)

end Materialization
end AthenaModels
