import AthenaModels.Proofs.Lakehouse.Outcome

namespace AthenaModels

namespace Lakehouse

variable {lake : Lakehouse} {before middle after : lake.Table}

/-- A partition that the catalog knows is overwritten whatever is in its files. In one that it does
not know they stay. -/
theorem Written.overwritten_iff (agrees : Agrees lake.Incoming before middle)
    (written : Written .insertOverwrite middle after) (place : Place lake.keys) :
    after.content place = lake.intended .insertOverwrite before place ↔
      (lake.Incoming place → ¬middle.registered place → middle.content place = 0) := by
  dsimp only [intended]
  by_cases incoming : lake.Incoming place
  · rw [if_pos incoming]
    by_cases known : middle.registered place
    · rw [written.replaced place ⟨rfl, known, incoming⟩]
      exact iff_of_true rfl fun _ unknown => absurd known unknown
    · rw [written.kept place fun replaced => known replaced.2.1]
      constructor
      · intro same _ _
        exact Multiset.add_left_inj.mp (same.trans (Multiset.zero_add _).symm)
      · intro none
        rw [none incoming known, Multiset.zero_add]
  · rw [if_neg incoming, written.kept place fun replaced => incoming replaced.2.2,
      arriving_eq_zero incoming, Multiset.add_zero, (agrees place incoming).2]
    exact iff_of_true rfl fun arrives => absurd arrives incoming

end Lakehouse

namespace Client

open Lakehouse

/-- After a run that fails, one more that succeeds makes of the table what the first was to make of
it if and only if the first has left no records in partitions that get rows and that the catalog no
longer knows. -/
theorem repairs_iff (c : Client) {lake : Lakehouse} {model : Model}
    {world middle later : lake.World} {trace again : List Warehouse.service.Event}
    {error : Error} {summary : Summary}
    (fits : lake.Fits model) (overwrites : model.incremental.validate = .ok .insertOverwrite)
    (settled : world.Settled)
    (failed : (c.materialize model).run.Runs trace (.done (.error error)))
    (first : lake.protocol.Steps world trace middle) (complete : middle.Settled)
    (ran : (c.materialize model).run.Runs again (.done (.ok summary)))
    (second : lake.protocol.Steps middle again later) :
    (∀ place, later.table.content place =
        lake.intended .insertOverwrite world.table place) ↔
      ∀ place, lake.Incoming place → ¬middle.table.registered place →
        middle.table.content place = 0 := by
  have here : At world.table world := ⟨settled, rfl⟩
  have spared := (materialize_keeps c fits overwrites here).run failed first
  have there : At middle.table middle := ⟨complete, rfl⟩
  obtain ⟨after, written, reached⟩ :=
    (materialize_keeps c fits overwrites there).run ran second
  rw [reached.table_eq]
  exact forall_congr' (written.overwritten_iff spared.table)

/-- Deletions that are refused at first leave the old rows where they are. -/
theorem ended_dayRun_twice :
    (dayRun (dayLedger 1)).2.ended? = some false ∧
      (dayRun (dayAfter (dayLedger 1))).2.ended? = some true := by
  decide +kernel

theorem repairs_iff_tuesday :
    let middle := dayAfter (dayLedger 1)
    let later := dayAfter middle
    (dayLedger 1).world.Settled ∧ middle.world.Settled ∧
      (∃ error, (dayRun (dayLedger 1)).2 = .done (.error error)) ∧
      days.protocol.Steps (dayLedger 1).world (dayRun (dayLedger 1)).1 middle.world ∧
      (∃ summary, (dayRun middle).2 = .done (.ok summary)) ∧
      days.protocol.Steps middle.world (dayRun middle).1 later.world ∧
      ((∀ place, later.world.table.content place =
          days.intended .insertOverwrite (dayLedger 1).world.table place) ↔
        ∀ place, days.Incoming place → ¬middle.world.table.registered place →
          middle.world.table.content place = 0) := by
  intro middle later
  have settled := (idle_dayLedger 1).settled
  have complete := (idle_dayAfter (idle_dayLedger 1)).settled
  have failed := runs_dayRun (dayLedger 1)
  have first := steps_dayRun (dayLedger 1)
  have ran := runs_dayRun middle
  have second := steps_dayRun middle
  obtain ⟨error, unsuccessful⟩ := Program.eq_error_of_ended? ended_dayRun_twice.1
  obtain ⟨summary, successful⟩ := Program.eq_ok_of_ended? ended_dayRun_twice.2
  rw [unsuccessful] at failed
  rw [successful] at ran
  exact ⟨settled, complete, ⟨error, unsuccessful⟩, first, ⟨summary, successful⟩, second,
    dayClient.repairs_iff fits_dayModel rfl settled failed first complete ran second⟩

instance : DecidableEq days.Record :=
  inferInstanceAs (DecidableEq (String × Place ["day"]))

/-- The second run adds the new rows to the old ones. -/
theorem repairs_not_tuesday :
    let middle := dayAfter (dayLedger 1)
    let later := dayAfter middle
    (dayLedger 1).world.Settled ∧ (dayLedger 1).world.table.Tidy ∧ middle.world.Settled ∧
      (∃ error, (dayRun (dayLedger 1)).2 = .done (.error error)) ∧
      days.protocol.Steps (dayLedger 1).world (dayRun (dayLedger 1)).1 middle.world ∧
      (∃ summary, (dayRun middle).2 = .done (.ok summary)) ∧
      days.protocol.Steps middle.world (dayRun middle).1 later.world ∧
      later.world.table.content tuesday = .ofList [("old", tuesday), ("new", tuesday)] ∧
      ¬∀ place, later.world.table.content place =
        days.intended .insertOverwrite (dayLedger 1).world.table place := by
  intro middle later
  have both : later.world.table.content tuesday = .ofList [("old", tuesday), ("new", tuesday)] := by
    decide +kernel
  have new : days.intended .insertOverwrite (dayLedger 1).world.table tuesday =
      .ofList [("new", tuesday)] := by
    decide +kernel
  refine ⟨(idle_dayLedger 1).settled, tidy_dayLedger 1, (idle_dayAfter (idle_dayLedger 1)).settled,
    Program.eq_error_of_ended? ended_dayRun_twice.1, steps_dayRun _,
    Program.eq_ok_of_ended? ended_dayRun_twice.2, steps_dayRun _, both, ?_⟩
  intro intended
  have size := congrArg Multiset.card ((both.symm.trans (intended tuesday)).trans new)
  cases size

end Client
end AthenaModels
