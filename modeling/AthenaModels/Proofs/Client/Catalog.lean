import AthenaModels.Proofs.Client.Overwriting
import AthenaModels.Proofs.Client.Resubmission
import AthenaModels.Proofs.Materialization.Statements

namespace AthenaModels.Client

open Program Sql Warehouse

variable (c : Client) {model : Model} {trace : List Warehouse.service.Event}
  {rest : Program Warehouse.service (Except Error Summary)}

/-- Each statement that leaves the catalog of its table open was submitted in a certain one. -/
def SubmitsIn (database : String) (trace : List Warehouse.service.Event) : Prop :=
  ∀ query reply table, started query reply ∈ trace → NamesInPart table query.sql →
    query.catalog = database

theorem submits_of_serves {request : Materialization.Request} {query : QueryRequest}
    (names : Materialization.Names model request) (serves : c.Serves request (.start query)) :
    query.catalog = c.profile.database ∧
      ∃ table, model.Uses table ∧ (NamesInFull table query.sql ∨ NamesInPart table query.sql) := by
  cases request with
  | query sql =>
      cases serves
      obtain ⟨table, uses, inFull⟩ := names
      exact ⟨rfl, table, uses, .inl inFull⟩
  | statement sql =>
      cases serves
      exact ⟨rfl, names⟩
  | fill sql location =>
      rcases serves with serves | serves
      · cases serves
        obtain ⟨table, uses, inFull⟩ := names
        exact ⟨rfl, table, uses, .inl inFull⟩
      · cases serves
  | _ => cases serves

theorem submits_of_runs (ran : (c.materialize model).run.Runs trace rest) {query : QueryRequest}
    {reply : Except Error String} (submitted : started query reply ∈ trace) :
    query.catalog = c.profile.database ∧
      ∃ table, model.Uses table ∧ (NamesInFull table query.sql ∨ NamesInPart table query.sql) := by
  obtain ⟨events, reached, account⟩ := ran.account
  obtain ⟨request, concerned, serves⟩ := account.serves_of_mem c.carryOut_makes submitted
  have names :=
    (Materialization.run_names c.profile model).allowed_of_concerned account.ran concerned
  exact c.submits_of_serves names serves

/-- All statements of a run are about the table of its model, or one that stands beside it, and are
submitted in the catalog of the profile. So the statements that name no catalog find their table in
the one of the model just when both are the same. -/
theorem submits_in_catalog_iff (model : Model) (ran : (c.materialize model).run.Runs trace rest) :
    (∀ query reply, started query reply ∈ trace → query.catalog = c.profile.database ∧
      ∃ table, model.Uses table ∧
        (NamesInFull table query.sql ∨ NamesInPart table query.sql)) ∧
    (SubmitsIn model.relation.database trace ↔ c.profile.database = model.relation.database ∨
      ∀ query reply table, started query reply ∈ trace → ¬NamesInPart table query.sql) := by
  have submits : ∀ query reply, started query reply ∈ trace → _ := fun _ _ => c.submits_of_runs ran
  refine ⟨submits, ?_, ?_⟩
  · intro inCatalog
    by_cases partly : ∃ query reply table, started query reply ∈ trace ∧ NamesInPart table query.sql
    · obtain ⟨query, reply, table, submitted, inPart⟩ := partly
      have own := (submits query reply submitted).1
      exact .inl (own.symm.trans (inCatalog query reply table submitted inPart))
    · exact .inr fun query reply table submitted inPart =>
        partly ⟨query, reply, table, submitted, inPart⟩
  · rintro (same | none) query reply table submitted inPart
    · exact (submits query reply submitted).1.trans same
    · exact absurd inPart (none query reply table submitted)

theorem submits_in_catalog_iff_tuesday :
    let c : Client := ⟨.ofRequired "s3://b/" "region" "schema" "catalog", 1⟩
    let ran := (c.materialize dayModel).run.play dayAnswers ""
    starts ran.1 = 9 ∧
    (∀ query reply, started query reply ∈ ran.1 → query.catalog = "catalog" ∧
      ∃ table, dayModel.Uses table ∧
        (NamesInFull table query.sql ∨ NamesInPart table query.sql)) ∧
    (SubmitsIn "catalog" ran.1 ↔ c.profile.database = "catalog" ∨
      ∀ query reply table, started query reply ∈ ran.1 → ¬NamesInPart table query.sql) := by
  intro c ran
  have played := runs_play dayAnswers (c.materialize dayModel).run ""
  exact ⟨by decide +kernel, c.submits_in_catalog_iff dayModel played⟩

/-- The table of the model is in a catalog that is not the one of the profile. Its partitions are
dropped from another table, and another staging table is dropped than was filled. -/
theorem drops_in_other_catalog :
    let c : Client := ⟨.ofRequired "s3://b/" "region" "schema" "other", 1⟩
    let ran := (c.materialize dayModel).run.play dayAnswers ""
    let staging := dayTable.staging "suffix"
    let alter := c.requestFor (dropPartitions dayTable [⟨[("day", some "tuesday")]⟩])
    let drop := c.requestFor (dropTable staging)
    (∃ reply, started alter reply ∈ ran.1) ∧ (∃ reply, started drop reply ∈ ran.1) ∧
      alter.catalog = "other" ∧ drop.catalog = "other" ∧
      ¬SubmitsIn dayModel.relation.database ran.1 := by
  intro c ran staging alter drop
  have altered : ran.1[26]?.map (·.request) = some (.start alter) := by decide +kernel
  have dropped : ran.1[33]?.map (·.request) = some (.start drop) := by decide +kernel
  refine ⟨exists_mem_of_request altered, exists_mem_of_request dropped, rfl, rfl, ?_⟩
  intro inCatalog
  obtain ⟨reply, member⟩ := exists_mem_of_request dropped
  have same : "other" = "catalog" := inCatalog drop reply staging member .dropTable
  exact absurd same (by decide)

end AthenaModels.Client
