import AthenaModels.Proofs.Client.Overwriting
import AthenaModels.Proofs.Client.Resubmission
import AthenaModels.Proofs.Materialization.Configuration
import AthenaModels.Proofs.Profile.Validation

namespace AthenaModels

namespace Client

open Program Warehouse

/-- Wrong settings of a model are reported before anything is asked for. Later there is a
configuration error just when the table of the model was found and then the staging table has no
place, because the profile's staging directory is all slashes after its scheme. -/
theorem config_errors_first (c : Client) (model : Model) (valid : c.profile.validate = .ok ()) :
    (∀ error, (model.incremental.validate = .error error ∨
        ∃ strategy, model.incremental.validate = .ok strategy ∧
          model.table.validate = .error error) →
      (c.materialize model).run = .done (.error (.config error))) ∧
    ∀ trace error, trace ≠ [] → (∀ event ∈ trace, Blameless event) →
      ((c.materialize model).run.Runs trace (.done (.error (.config error))) ↔
        Location.IsBare c.profile.stagingDir ∧ ∃ result suffix,
          Materialization.FoundLate c.profile model result suffix error ∧
          Expands c.carryOut (Materialization.begins model result suffix) trace) := by
  refine ⟨?_, ?_⟩
  · intro error invalid
    change (ExceptT.run (Materialization.run c.profile model)).translate c.carryOut = _
    rw [Materialization.run_of_error invalid]
    rfl
  · intro trace error asked blameless
    constructor
    · intro ran
      obtain ⟨events, ran, expands⟩ := Runs.carried ran
      have some : events ≠ [] := by
        rintro rfl
        cases expands
        exact asked rfl
      have passed := expands.forall_told (fun request _ _ => c.blameless_carryOut request) blameless
      obtain ⟨result, suffix, rfl, late⟩ := Materialization.found_late_of_run ran some passed
      have outside := TableConfig.outside_of_validate (TableConfig.creation_error_iff.mp late.refused)
      exact ⟨Location.isBare_of_join (Profile.validate_iff.mp valid).staged outside, result, suffix,
        late, expands⟩
    · rintro ⟨_, result, suffix, late, expands⟩
      exact late.run.translate expands

def bareClient : Client := ⟨.ofRequired "s3://" "region" "schema" "catalog", 1⟩

def bareRun : List Warehouse.service.Event × Program Warehouse.service (Except Error Summary) :=
  (bareClient.materialize dayModel).run.play dayAnswers ""

theorem blameless_bareRun : ∀ event ∈ bareRun.1, Blameless event := by
  have answered : bareRun.1.all (fun event => (error? event).isNone) = true := by decide +kernel
  intro event member error same
  have none := List.all_eq_true.mp answered event member
  rw [same] at none
  cases none

def bareError : ConfigError :=
  .invalid "external_location" "expected an s3:// URI, got 's3:/tmp/days__dbt_tmp_suffix'"

theorem ended_bareRun : bareRun.2 = .done (.error (.config bareError)) :=
  eq_error_of_failure? (by decide +kernel)

theorem config_errors_first_bare :
    bareClient.profile.validate = .ok () ∧
    (let merging := { dayModel with incremental := ⟨some "merge", none⟩ }
      ∃ error, merging.incremental.validate = .error error ∧
        (bareClient.materialize merging).run = .done (.error (.config error))) ∧
    bareRun.1 ≠ [] ∧ Location.IsBare "s3://" ∧ ∃ result suffix,
      Materialization.FoundLate bareClient.profile dayModel result suffix bareError ∧
      Expands bareClient.carryOut (Materialization.begins dayModel result suffix) bareRun.1 := by
  have valid : bareClient.profile.validate = .ok () := by decide +kernel
  have ran : (bareClient.materialize dayModel).run.Runs bareRun.1
      (.done (.error (.config bareError))) := ended_bareRun ▸ runs_play _ _ _
  have asked : bareRun.1 ≠ [] := List.ne_nil_of_length_pos (by decide +kernel)
  refine ⟨valid, ⟨_, rfl, ?_⟩, asked, ?_⟩
  · exact (bareClient.config_errors_first _ valid).1 _ (.inl rfl)
  · exact ((bareClient.config_errors_first dayModel valid).2 _ _ asked blameless_bareRun).mp ran

/-- The profile is valid, but its directory is nothing but the scheme of a place. This is found when
a query has been asked for. -/
theorem config_error_after_query :
    bareClient.profile.validate = .ok () ∧ (∀ event ∈ bareRun.1, Blameless event) ∧
      bareRun.2 = .done (.error (.config bareError)) ∧ starts bareRun.1 = 1 :=
  ⟨by decide +kernel, blameless_bareRun, ended_bareRun, by decide +kernel⟩

end Client
end AthenaModels
