import AthenaModels.Proofs.Lakehouse.Basic

open Relation (ReflTransGen)

namespace AthenaModels.Lakehouse

variable {lake : Lakehouse} {world later : lake.World} {table : lake.Table} {id sql : String}

namespace World

theorem put_self {job : Job} : (world.put id job).jobs id = some job := Function.update_self ..

theorem put_of_ne {other : String} {job : Job} (different : other ≠ id) :
    (world.put id job).jobs other = world.jobs other := Function.update_of_ne different ..

theorem put_put {first second : Job} :
    (world.put id first).put id second = world.put id second := by
  simp only [put, Function.update_idem]

theorem put_succeeded_of_ne {other : String} {job : Job} {after : lake.Table}
    (different : other ≠ id) :
    ({ world.put id job with table := after } : lake.World).jobs other = world.jobs other :=
  put_of_ne different

theorem underway_of_put {other : String} {job : Job} {text : String}
    (underway : (world.put id job).jobs other = some ⟨text, .underway⟩) :
    (other = id ∧ job = ⟨text, .underway⟩) ∨
      (other ≠ id ∧ world.jobs other = some ⟨text, .underway⟩) := by
  by_cases same : other = id
  · subst same
    rw [put_self] at underway
    exact .inl ⟨rfl, Option.some.inj underway⟩
  · rw [put_of_ne same] at underway
    exact .inr ⟨same, underway⟩

theorem Progress.job {job : Job} (progress : Progress world later) (held : world.jobs id = some job)
    (complete : job.phase ≠ .underway) : later.jobs id = some job := by
  have different : ∀ other text, world.jobs other = some ⟨text, .underway⟩ → id ≠ other := by
    intro other text underway same
    subst same
    rw [held] at underway
    exact complete (congrArg Job.phase (Option.some.inj underway))
  cases progress with
  | succeeds underway => exact (put_of_ne (different _ _ underway)).trans held
  | fails underway => exact (put_of_ne (different _ _ underway)).trans held
  | stops underway => exact (put_of_ne (different _ _ underway)).trans held

end World

/-- True however far the statements get. -/
def Stable (holds : lake.World → Prop) : Prop :=
  ∀ world later, holds world → World.Progress world later → holds later

theorem Stable.run {holds : lake.World → Prop} (stable : Stable holds) (now : holds world)
    (progress : ReflTransGen World.Progress world later) : holds later := by
  induction progress with
  | refl => exact now
  | tail _ step ih => exact stable _ _ ih step

theorem stable_job {job : Job} (complete : job.phase ≠ .underway) :
    Stable fun world : lake.World => world.jobs id = some job :=
  fun _ _ held progress => progress.job held complete

theorem stable_shows (state : QueryState) :
    Stable fun world : lake.World => world.Shows id state := by
  intro world later shown progress
  cases state with
  | succeeded =>
      obtain ⟨text, pages, held⟩ := shown
      exact ⟨text, pages, progress.job held nofun⟩
  | failed =>
      obtain ⟨text, held⟩ := shown
      exact ⟨text, progress.job held nofun⟩
  | cancelled =>
      obtain ⟨text, held⟩ := shown
      exact ⟨text, progress.job held nofun⟩
  | queued => trivial
  | running => trivial

theorem Stable.and {first second : lake.World → Prop} (one : Stable first) (other : Stable second) :
    Stable fun world => first world ∧ second world :=
  fun world later now progress => ⟨one world later now.1 progress, other world later now.2 progress⟩

structure At (table : lake.Table) (world : lake.World) : Prop where
  settled : world.Settled
  table_eq : world.table = table

theorem stable_at (table : lake.Table) : Stable (At table) := by
  intro world later given progress
  obtain ⟨settled, rfl⟩ := given
  have others : ∀ {id sql other text} {job : Job},
      world.jobs id = some ⟨sql, .underway⟩ → job.phase ≠ .underway →
      (world.put id job).jobs other = some ⟨text, .underway⟩ → lake.Harmless text := by
    intro id sql other text job _ complete held
    rcases World.underway_of_put held with ⟨_, rfl⟩ | ⟨_, before⟩
    · exact absurd rfl complete
    · exact settled other text before
  cases progress with
  | @succeeds id sql pages after underway executes =>
      exact ⟨fun _ _ => others underway nofun, settled id sql underway _ _ _ executes⟩
  | fails underway => exact ⟨fun _ _ => others underway nofun, rfl⟩
  | stops underway => exact ⟨fun _ _ => others underway nofun, rfl⟩

/-- The statement has not changed the table, or it has succeeded and its effect is there. -/
structure Tracks (table : lake.Table) (id sql : String) (world : lake.World) : Prop where
  others : ∀ other text, other ≠ id → world.jobs other = some ⟨text, .underway⟩ → lake.Harmless text
  effect : (∃ phase, world.jobs id = some ⟨sql, phase⟩ ∧ (∀ pages, phase ≠ .succeeded pages) ∧
      world.table = table) ∨
    ∃ pages, world.jobs id = some ⟨sql, .succeeded pages⟩ ∧
      lake.Executes sql table pages world.table

theorem stable_tracks (table : lake.Table) (id sql : String) : Stable (Tracks table id sql) := by
  intro world later tracks progress
  have others : ∀ {job : Job} {own text}, world.jobs own = some ⟨text, .underway⟩ →
      job.phase ≠ .underway → ∀ other text, other ≠ id →
      (world.put own job).jobs other = some ⟨text, .underway⟩ → lake.Harmless text := by
    intro job own text _ complete other text' different held
    rcases World.underway_of_put held with ⟨_, rfl⟩ | ⟨_, before⟩
    · exact absurd rfl complete
    · exact tracks.others other text' different before
  -- An end that is not a success leaves the table, whosever it is.
  have failure : ∀ {own text} {phase : Phase}, world.jobs own = some ⟨text, .underway⟩ →
      phase ≠ .underway → (∀ pages, phase ≠ .succeeded pages) →
      Tracks table id sql (world.put own ⟨text, phase⟩) := by
    intro own text phase underway complete unsuccessful
    refine ⟨others underway complete, ?_⟩
    by_cases same : own = id
    · subst same
      rcases tracks.effect with ⟨old, held, _, table_eq⟩ | ⟨pages, held, _⟩
      · rw [held] at underway
        cases Option.some.inj underway
        exact .inl ⟨phase, World.put_self, unsuccessful, table_eq⟩
      · rw [held] at underway
        cases Option.some.inj underway
    · rw [World.put_of_ne (Ne.symm same)]
      exact tracks.effect
  cases progress with
  | fails underway => exact failure underway nofun nofun
  | stops underway => exact failure underway nofun nofun
  | @succeeds own text pages after underway executes =>
      refine ⟨others underway nofun, ?_⟩
      by_cases same : own = id
      · subst same
        rcases tracks.effect with ⟨old, held, _, table_eq⟩ | ⟨pages, held, _⟩
        · rw [held] at underway
          cases Option.some.inj underway
          rw [table_eq] at executes
          exact .inr ⟨pages, World.put_self, executes⟩
        · rw [held] at underway
          cases Option.some.inj underway
      · have unchanged := tracks.others own text same underway _ _ _ executes
        rw [World.put_succeeded_of_ne (Ne.symm same), unchanged]
        exact tracks.effect

theorem At.start (here : At table world) (id sql : String) :
    Tracks table id sql (world.put id ⟨sql, .underway⟩) := by
  refine ⟨?_, .inl ⟨.underway, World.put_self, nofun, here.table_eq⟩⟩
  intro other text different held
  rw [World.put_of_ne different] at held
  exact here.settled other text held

theorem Tracks.at_of_failed (tracks : Tracks table id sql world) (shown : world.Shows id .failed) :
    At table world := by
  obtain ⟨text, failed⟩ := shown
  rcases tracks.effect with ⟨phase, held, _, table_eq⟩ | ⟨pages, held, _⟩
  · refine ⟨?_, table_eq⟩
    intro other text' underway
    by_cases same : other = id
    · subst same
      rw [failed] at underway
      cases underway
    · exact tracks.others other text' same underway
  · rw [failed] at held
    cases held

theorem Tracks.at_of_succeeded (tracks : Tracks table id sql world)
    (shown : world.Shows id .succeeded) :
    ∃ pages, world.jobs id = some ⟨sql, .succeeded pages⟩ ∧
      lake.Executes sql table pages world.table ∧ At world.table world := by
  obtain ⟨text, pages, succeeded⟩ := shown
  rcases tracks.effect with ⟨phase, held, unsuccessful, _⟩ | ⟨pages, held, executes⟩
  · rw [succeeded] at held
    cases held
    exact absurd rfl (unsuccessful pages)
  · refine ⟨pages, held, executes, ?_, rfl⟩
    intro other text' underway
    by_cases same : other = id
    · subst same
      rw [held] at underway
      cases underway
    · exact tracks.others other text' same underway

theorem Tracks.at_of_harmless (tracks : Tracks table id sql world) (harmless : lake.Harmless sql) :
    At table world := by
  constructor
  · intro other text underway
    by_cases same : other = id
    · subst same
      rcases tracks.effect with ⟨phase, held, _⟩ | ⟨pages, held, _⟩
      · rw [held] at underway
        cases underway
        exact harmless
      · rw [held] at underway
        cases underway
    · exact tracks.others other text same underway
  · rcases tracks.effect with ⟨_, _, _, table_eq⟩ | ⟨pages, _, executes⟩
    · exact table_eq
    · exact harmless _ _ _ executes

structure Calm (holds : lake.World → Prop) : Prop where
  stable : Stable holds
  start : ∀ {world : lake.World} {id sql : String}, holds world → lake.Harmless sql →
    holds (world.put id ⟨sql, .underway⟩)

theorem calm_at (table : lake.Table) : Calm (At table) where
  stable := stable_at table
  start here harmless := (here.start _ _).at_of_harmless harmless

end AthenaModels.Lakehouse
