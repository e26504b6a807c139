import AthenaModels.Proofs.Chunk
import AthenaModels.Proofs.Lakehouse.Statements
import AthenaModels.Proofs.Materialization.Schedule

namespace AthenaModels.Lakehouse

open Fallible Materialization

variable {lake : Lakehouse} {world : lake.World} {table start : lake.Table}
  {touched : Place lake.keys → Prop}

/-- Nothing has changed in partitions other than those touched. -/
def Agrees (touched : Place lake.keys → Prop) (before after : lake.Table) : Prop :=
  ∀ place, ¬touched place →
    (after.registered place ↔ before.registered place) ∧ after.content place = before.content place

theorem Agrees.refl (table : lake.Table) : Agrees touched table table :=
  fun _ _ => ⟨Iff.rfl, rfl⟩

theorem Agrees.trans {first second third : lake.Table} (one : Agrees touched first second)
    (other : Agrees touched second third) : Agrees touched first third := by
  intro place outside
  obtain ⟨registered, content⟩ := one place outside
  obtain ⟨registered', content'⟩ := other place outside
  exact ⟨registered'.trans registered, content'.trans content⟩

def Spares (touched : Place lake.keys → Prop) (sql : String) : Prop :=
  ∀ before pages after, lake.Executes sql before pages after → Agrees touched before after

/-- Nothing has changed, or will, in partitions other than those touched. -/
structure Spared (touched : Place lake.keys → Prop) (start : lake.Table) (world : lake.World) :
    Prop where
  table : Agrees touched start world.table
  jobs : ∀ id sql, world.jobs id = some ⟨sql, .underway⟩ → Spares touched sql

theorem spares_of_harmless {sql : String} (harmless : lake.Harmless sql) : Spares touched sql := by
  intro before pages after executes
  rw [harmless before pages after executes]
  exact .refl before

theorem At.spared (here : At table world) (agrees : Agrees touched start table) :
    Spared touched start world := by
  refine ⟨by rwa [here.table_eq], ?_⟩
  intro id sql underway
  exact spares_of_harmless (here.settled id sql underway)

theorem Tracks.spared {id sql : String} (tracks : Tracks table id sql world)
    (spares : Spares touched sql) (agrees : Agrees touched start table) :
    Spared touched start world := by
  constructor
  · rcases tracks.effect with ⟨_, _, _, table_eq⟩ | ⟨pages, _, executes⟩
    · rwa [table_eq]
    · exact agrees.trans (spares _ _ _ executes)
  · intro other text underway
    by_cases same : other = id
    · subst same
      rcases tracks.effect with ⟨phase, held, _⟩ | ⟨pages, held, _⟩
      · rw [held] at underway
        cases underway
        exact spares
      · rw [held] at underway
        cases underway
    · exact spares_of_harmless (tracks.others other text same underway)

theorem calm_spared (touched : Place lake.keys → Prop) (start : lake.Table) :
    Calm (Spared touched start) where
  stable := by
    intro world later spared progress
    have jobs : ∀ {id own} {job : Job} {sql}, job.phase ≠ .underway →
        (world.put id job).jobs own = some ⟨sql, .underway⟩ → Spares touched sql := by
      intro id own job sql complete held
      rcases World.underway_of_put held with ⟨_, rfl⟩ | ⟨_, before⟩
      · exact absurd rfl complete
      · exact spared.jobs own sql before
    cases progress with
    | @succeeds id sql pages after underway executes =>
        exact ⟨spared.table.trans (spared.jobs id sql underway _ _ _ executes),
          fun _ _ => jobs nofun⟩
    | fails underway => exact ⟨spared.table, fun _ _ => jobs nofun⟩
    | stops underway => exact ⟨spared.table, fun _ _ => jobs nofun⟩
  start := by
    intro world id sql spared harmless
    refine ⟨spared.table, ?_⟩
    intro own text underway
    rcases World.underway_of_put underway with ⟨_, same⟩ | ⟨_, before⟩
    · cases same
      exact spares_of_harmless harmless
    · exact spared.jobs own text before

theorem reading_keeps {α : Type} {sql missing : String} {read? : Result → Option α}
    (harmless : lake.Harmless sql) (here : At table world) :
    (ExceptT.run (reading sql read? missing)).Keeps lake.calls
      (ends (fun later value => At table later ∧ ∃ pages result,
          lake.Executes sql table pages table ∧ ReadFrom pages result ∧ read? result = some value)
        (fun later _ => At table later)) world := by
  rw [run_reading]
  refine ⟨trivial, ?_⟩
  intro reply later step
  have after := step table here harmless
  cases reply with
  | error error => exact after
  | ok result =>
      obtain ⟨here, pages, executes, read⟩ := after
      change ends _ _ later ((read? result).elim (.error (.malformed missing)) .ok)
      cases found : read? result with
      | none => exact here
      | some value => exact ⟨here, pages, result, executes, read, found⟩

theorem statement_keeps (sql : String) (spares : Spares touched sql)
    (agrees : Agrees touched start table) (here : At table world) :
    (ExceptT.run (statement sql)).Keeps lake.calls
      (ends (fun later _ => ∃ pages after, lake.Executes sql table pages after ∧ At after later)
        (fun later _ => Spared touched start later)) world := by
  refine ⟨trivial, ?_⟩
  intro reply later step
  have after := step.1 table here
  cases reply with
  | ok => exact after
  | error error =>
      rcases after with here | ⟨id, tracks⟩
      · exact here.spared agrees
      · exact tracks.spared spares agrees

theorem fill_keeps {sql : String} (location : String) (harmless : lake.Harmless sql)
    (here : At table world) :
    (ExceptT.run (fill sql location)).Keeps lake.calls
      (ends (fun later _ => At table later) (fun later _ => At table later)) world := by
  refine ⟨trivial, ?_⟩
  intro reply later step
  have after := step table here
  cases reply with
  | ok =>
      obtain ⟨pages, filled, executes, there⟩ := after
      rwa [harmless _ _ _ executes] at there
  | error error =>
      rcases after with here | ⟨id, tracks⟩
      · exact here
      · exact tracks.at_of_harmless harmless

theorem drawName_keeps (profile : Profile) (model : Model) (here : At table world) :
    (ExceptT.run (drawName profile model)).Keeps lake.calls
      (ends (fun later drawn => At table later ∧
          stagingCreation profile model drawn.1 = .ok drawn.2)
        (fun later _ => At table later)) world := by
  rw [run_drawName]
  refine ⟨trivial, ?_⟩
  intro suffix later progress
  have here := (stable_at table).run here progress
  change ends _ _ later (drawReply profile model suffix)
  rw [drawReply]
  cases creation : stagingCreation profile model suffix with
  | error => exact here
  | ok => exact ⟨here, creation⟩

theorem dropStaging_keeps {holds : lake.World → Prop} (suffix location : String)
    (calm : Calm holds) (now : holds world) :
    (ExceptT.run (dropStaging (lake.target.staging suffix) location)).Keeps lake.calls
      (ends (fun later _ => holds later) (fun _ _ => False)) world := by
  refine Fallible.keeps_bind.mpr (keeps_outcome.mpr ⟨trivial, ?_⟩)
  intro dropped later step
  have now := step.2 holds calm (harmless_dropTable suffix) now
  refine Fallible.keeps_bind.mpr (keeps_outcome.mpr ⟨trivial, ?_⟩)
  intro emptied later progress
  exact calm.stable.run now progress

variable {suffix : String}

theorem incoming_keeps (suffix : String) (here : At table world) :
    (ExceptT.run (partitionsFrom
        (Sql.distinctPartitions (lake.target.staging suffix) lake.keys) lake.keys)).Keeps lake.calls
      (ends (fun later partitions => At table later ∧ Listed partitions lake.Incoming)
        (fun later _ => At table later)) world := by
  apply keeps_of_ends (reading_keeps (harmless_distinctPartitions suffix) here)
    (fun _ _ kept => kept)
  intro later partitions kept
  obtain ⟨here, pages, result, executes, read, found⟩ := kept
  exact ⟨here, listed_incoming executes read found⟩

theorem existing_keeps (here : At table world) :
    (ExceptT.run (partitionsFrom (Sql.existingPartitions lake.target) lake.keys)).Keeps lake.calls
      (ends (fun later partitions => At table later ∧ Listed partitions table.registered)
        (fun later _ => At table later)) world := by
  apply keeps_of_ends (reading_keeps harmless_existingPartitions here) (fun _ _ kept => kept)
  intro later partitions kept
  obtain ⟨here, pages, result, executes, read, found⟩ := kept
  exact ⟨here, listed_existing executes read found⟩

theorem targetColumns_keeps (here : At table world) :
    (ExceptT.run (targetColumns lake.target)).Keeps lake.calls
      (ends (fun later columns => At table later ∧ columns = lake.columns)
        (fun later _ => At table later)) world := by
  apply keeps_bind_of (reading_keeps harmless_columns here) (fun _ _ kept => kept)
  intro later columns kept
  obtain ⟨here, pages, result, executes, read, found⟩ := kept
  dsimp only [ends]
  split
  · exact here
  · exact ⟨here, columns_of_executes executes read found⟩

theorem relationExists_keeps (here : At table world) :
    (ExceptT.run (relationExists lake.target)).Keeps lake.calls
      (ends (fun later found => At table later ∧ found = true) (fun later _ => At table later))
      world := by
  refine Fallible.keeps_bind.mpr ⟨trivial, ?_⟩
  intro reply later step
  have after := step table here harmless_tableExists
  cases reply with
  | error error => exact after
  | ok result =>
      obtain ⟨here, pages, executes, read⟩ := after
      have some := rows_of_tableExists executes read
      exact ⟨here, by simpa using some⟩

theorem dataFiles_keeps {partitions : List Partition} (part : lake.Part partitions)
    (here : At table world) :
    (ExceptT.run (dataFiles (Sql.filePaths lake.target partitions))).Keeps lake.calls
      (ends (fun later paths => At table later ∧ Located table partitions paths)
        (fun later _ => At table later)) world := by
  apply keeps_of_ends (reading_keeps part.harmless_filePaths here) (fun _ _ kept => kept)
  intro later paths kept
  obtain ⟨here, pages, result, executes, read, found⟩ := kept
  exact ⟨here, part.located executes read found⟩

theorem located_flatten {chunks : List (List Partition)} {files : List (List String)}
    (located : List.Forall₂ (Located table) chunks files) :
    Located table chunks.flatten files.flatten := by
  intro path
  induction located with
  | nil => simp
  | cons first _ ih =>
      rw [List.flatten_cons, List.flatten_cons, List.mem_append, List.mem_append, first path, ih]
      constructor
      · intro given
        rcases given with ⟨file, registered, member⟩ | ⟨file, registered, member⟩
        · exact ⟨file, registered, .inl member⟩
        · exact ⟨file, registered, .inr member⟩
      · intro given
        obtain ⟨file, registered, member | member⟩ := given
        · exact .inl ⟨file, registered, member⟩
        · exact .inr ⟨file, registered, member⟩

theorem lookups_keep {chunks : List (List Partition)} (parts : ∀ chunk ∈ chunks, lake.Part chunk)
    (here : At table world) :
    (ExceptT.run (chunks.mapM fun chunk => dataFiles (Sql.filePaths lake.target chunk))).Keeps
      lake.calls
      (ends (fun later files => At table later ∧ List.Forall₂ (Located table) chunks files)
        (fun later _ => At table later)) world := by
  induction chunks generalizing world with
  | nil =>
      rw [List.mapM_nil]
      exact ⟨here, .nil⟩
  | cons chunk chunks ih =>
      rw [List.mapM_cons]
      have part := parts chunk List.mem_cons_self
      apply keeps_bind_of (dataFiles_keeps part here) (fun _ _ kept => kept)
      intro later paths kept
      obtain ⟨here, located⟩ := kept
      have others := ih (fun chunk member => parts chunk (List.mem_cons_of_mem _ member)) here
      apply keeps_bind_of others (fun _ _ kept => kept)
      intro later files kept
      exact ⟨kept.1, .cons located kept.2⟩

theorem content_without {table : lake.Table} {removed : List String} {place : Place lake.keys}
    (elsewhere : ∀ path ∈ removed, lake.directory path ≠ place) :
    (table.without removed).content place = table.content place := by
  have same : (table.without removed).files.filter
        (fun file => lake.directory file.path = place) =
      table.files.filter fun file => lake.directory file.path = place := by
    rw [Table.without, List.filter_filter]
    apply List.filter_congr
    intro file _
    rw [Bool.and_eq_left_iff_imp]
    intro here
    rw [decide_eq_true_iff]
    intro member
    exact elsewhere file.path member (of_decide_eq_true here)
  rw [Table.content, Table.content, recordsIn, recordsIn, same]

theorem Dropped.content_eq {partitions : List Partition} {before after : lake.Table}
    (dropped : Dropped before partitions after) (place : Place lake.keys) :
    after.content place = before.content place := by
  rw [Table.content, Table.content, dropped.files]

theorem Dropped.agrees {partitions : List Partition} {before after : lake.Table}
    (dropped : Dropped before partitions after)
    (within : ∀ place : Place lake.keys, place.1 ∈ partitions → touched place) :
    Agrees touched before after := by
  intro place outside
  refine ⟨?_, dropped.content_eq place⟩
  rw [dropped.registered]
  exact and_iff_left fun member => outside (within place member)

/-- The engine drops what it is told to, and files stay where they are. -/
theorem Part.spares {partitions : List Partition} (part : lake.Part partitions)
    (within : ∀ place : Place lake.keys, place.1 ∈ partitions → touched place) :
    Spares touched (Sql.dropPartitions lake.target partitions) := by
  intro before pages after executes place outside
  have dropped := part.dropped executes
  exact dropped.agrees within place outside

theorem Dropped.append {first second third : lake.Table} {chunk others : List Partition}
    (one : Dropped first chunk second) (other : Dropped second others third) :
    Dropped first (chunk ++ others) third := by
  refine ⟨other.files.trans one.files, ?_⟩
  intro place
  rw [other.registered, one.registered, List.mem_append, not_or, and_assoc]

theorem drop_keeps {partitions : List Partition} (part : lake.Part partitions)
    (within : ∀ place : Place lake.keys, place.1 ∈ partitions → touched place)
    (agrees : Agrees touched start table) (here : At table world) :
    (ExceptT.run (do
        let _ ← statement (Sql.dropPartitions lake.target partitions) : Materialization Unit)).Keeps
      lake.calls
      (ends (fun later _ => ∃ after, Dropped table partitions after ∧ At after later)
        (fun later _ => Spared touched start later)) world := by
  apply keeps_bind_of (statement_keeps _ (part.spares within) agrees here) (fun _ _ kept => kept)
  intro later _ kept
  obtain ⟨pages, after, executes, here⟩ := kept
  exact ⟨after, part.dropped executes, here⟩

theorem drops_keep {chunks : List (List Partition)} (parts : ∀ chunk ∈ chunks, lake.Part chunk)
    (within : ∀ place : Place lake.keys, place.1 ∈ chunks.flatten → touched place)
    (agrees : Agrees touched start table) (here : At table world) :
    (ExceptT.run (chunks.forM fun chunk => do
        let _ ← statement (Sql.dropPartitions lake.target chunk))).Keeps lake.calls
      (ends (fun later _ => ∃ after, Dropped table chunks.flatten after ∧ At after later)
        (fun later _ => Spared touched start later)) world := by
  induction chunks generalizing world table with
  | nil => exact ⟨table, ⟨rfl, fun _ => by simp⟩, here⟩
  | cons chunk chunks ih =>
      have part := parts chunk List.mem_cons_self
      have inside : ∀ place : Place lake.keys, place.1 ∈ chunk → touched place :=
        fun place member => within place (List.mem_append_left _ member)
      apply keeps_bind_of (drop_keeps part inside agrees here) (fun _ _ kept => kept)
      intro later _ kept
      obtain ⟨middle, dropped, here⟩ := kept
      have others := ih (fun chunk member => parts chunk (List.mem_cons_of_mem _ member))
        (fun place member => within place (List.mem_append_right _ member))
        (agrees.trans (dropped.agrees inside)) here
      apply keeps_of_ends others (fun _ _ kept => kept)
      intro later _ kept
      obtain ⟨after, others, here⟩ := kept
      exact ⟨after, dropped.append others, here⟩

/-- Some partitions are gone from the catalog with all their files, and nothing else has changed. -/
structure Cleared (before : lake.Table) (replaced : Place lake.keys → Prop) (after : lake.Table) :
    Prop where
  registered : ∀ place, after.registered place ↔ before.registered place ∧ ¬replaced place
  cleared : ∀ place, replaced place → after.content place = 0
  kept : ∀ place, ¬replaced place → after.content place = before.content place

/-- Deleting the files that were located before the partitions were dropped clears these. -/
theorem Dropped.cleared {partitions : List Partition} {paths : List String}
    {before after : lake.Table} (dropped : Dropped before partitions after)
    (located : Located before partitions paths)
    (known : ∀ place : Place lake.keys, place.1 ∈ partitions → before.registered place) :
    Cleared before (fun place => place.1 ∈ partitions) (after.without paths) where
  registered := dropped.registered
  cleared := by
    intro place member
    have none : (after.without paths).files.filter
        (fun file => lake.directory file.path = place) = [] := by
      rw [List.filter_eq_nil_iff]
      intro file kept here
      obtain ⟨listed, unlocated⟩ := List.mem_filter.mp kept
      have there : lake.directory file.path = place := of_decide_eq_true here
      have gone : file.path ∈ paths := by
        rw [located]
        exact ⟨⟨file, dropped.files ▸ listed, rfl⟩, there ▸ known place member, there ▸ member⟩
      exact of_decide_eq_true unlocated gone
    rw [Table.content, recordsIn, none]
    rfl
  kept := by
    intro place outside
    have elsewhere : ∀ path ∈ paths, lake.directory path ≠ place := by
      intro path member there
      obtain ⟨_, _, inside⟩ := (located path).mp member
      exact outside (there ▸ inside)
    rw [content_without elsewhere, dropped.content_eq]

theorem Cleared.agrees {replaced : Place lake.keys → Prop} {before after : lake.Table}
    (cleared : Cleared before replaced after)
    (within : ∀ place, replaced place → touched place) : Agrees touched before after := by
  intro place outside
  have kept : ¬replaced place := fun member => outside (within place member)
  exact ⟨(cleared.registered place).trans (and_iff_left kept), cleared.kept place kept⟩

theorem agrees_without {partitions : List Partition} {paths removed : List String}
    {before after : lake.Table} (dropped : Dropped before partitions after)
    (located : Located before partitions paths) (subset : removed ⊆ paths)
    (within : ∀ place : Place lake.keys, place.1 ∈ partitions → touched place) :
    Agrees touched before (after.without removed) := by
  intro place outside
  have elsewhere : ∀ path ∈ removed, lake.directory path ≠ place := by
    intro path member there
    obtain ⟨_, _, inside⟩ := (located path).mp (subset member)
    exact outside (within place (there ▸ inside))
  rw [content_without elsewhere]
  exact dropped.agrees within place outside

theorem deleteLocated_keeps {partitions : List Partition} {paths : List String}
    {before middle : lake.Table} (dropped : Dropped before partitions middle)
    (located : Located before partitions paths)
    (known : ∀ place : Place lake.keys, place.1 ∈ partitions → before.registered place)
    (within : ∀ place : Place lake.keys, place.1 ∈ partitions → touched place)
    (agrees : Agrees touched start before) (here : At middle world) :
    (ExceptT.run
        (if paths.isEmpty then return 0 else deleteObjects paths : Materialization Nat)).Keeps
      lake.calls
      (ends (fun later _ => ∃ after, Cleared before (fun place => place.1 ∈ partitions) after ∧
          At after later)
        (fun later _ => Spared touched start later)) world := by
  have cleared := dropped.cleared located known
  cases paths with
  | nil =>
      rw [without_nil] at cleared
      exact ⟨middle, cleared, here⟩
  | cons path paths =>
      refine ⟨trivial, ?_⟩
      intro reply later step
      have after := step middle here
      -- A deletion that fails has still deleted only files of the dropped partitions.
      cases reply with
      | ok => exact ⟨_, cleared, after⟩
      | error =>
          obtain ⟨removed, subset, there⟩ := after
          exact there.spared (agrees.trans (agrees_without dropped located subset within))

theorem parts_of_chunks {partitions : List Partition}
    (keyed : ∀ partition ∈ partitions, partition.Keyed lake.keys) :
    ∀ chunk ∈ Chunk.ofList Plan.maxPartitions partitions, lake.Part chunk := by
  intro chunk member
  refine ⟨(Chunk.mem_ofList (by decide) member).1, ?_⟩
  intro partition inside
  apply keyed partition
  have whole : (Chunk.ofList Plan.maxPartitions partitions).flatten = partitions :=
    Chunk.ofList_flatten (by decide) partitions
  rw [← whole]
  exact List.mem_flatten_of_mem member inside

theorem dropPartitions_keeps {partitions : List Partition}
    (keyed : ∀ partition ∈ partitions, partition.Keyed lake.keys)
    (known : ∀ place : Place lake.keys, place.1 ∈ partitions → table.registered place)
    (within : ∀ place : Place lake.keys, place.1 ∈ partitions → touched place)
    (agrees : Agrees touched start table) (here : At table world) :
    (ExceptT.run (dropPartitions lake.target partitions)).Keeps lake.calls
      (ends (fun later _ => ∃ after, Cleared table (fun place => place.1 ∈ partitions) after ∧
          At after later)
        (fun later _ => Spared touched start later)) world := by
  have parts := parts_of_chunks keyed
  have whole : (Chunk.ofList Plan.maxPartitions partitions).flatten = partitions :=
    Chunk.ofList_flatten (by decide) partitions
  -- The files are those of the table as it was before anything was dropped.
  apply keeps_bind_of (lookups_keep parts here) (fun _ _ kept => At.spared kept agrees)
  intro later files kept
  obtain ⟨here, found⟩ := kept
  have located := located_flatten found
  rw [whole] at located
  have drops := drops_keep parts (by rwa [whole]) agrees here
  rw [whole] at drops
  apply keeps_bind_of drops (fun _ _ kept => kept)
  intro later _ kept
  obtain ⟨middle, dropped, here⟩ := kept
  exact deleteLocated_keeps dropped located known within agrees here

theorem cleared_nothing (table : lake.Table) : Cleared table (fun _ => False) table where
  registered _ := by rw [not_false_eq_true, and_true]
  cleared _ := False.elim
  kept _ _ := rfl

theorem dropReplaced_keeps {plan : Plan}
    (keyed : ∀ partition ∈ plan.replaced, partition.Keyed lake.keys)
    (known : ∀ place : Place lake.keys, place.1 ∈ plan.replaced → table.registered place)
    (within : ∀ place : Place lake.keys, place.1 ∈ plan.replaced → touched place)
    (agrees : Agrees touched start table) (here : At table world) :
    (ExceptT.run (if plan.replaced.isEmpty then return (plan, 0)
        else return (plan, ← dropPartitions lake.target plan.replaced) :
          Materialization (Plan × Nat))).Keeps lake.calls
      (ends (fun later _ => ∃ after, Cleared table (fun place => place.1 ∈ plan.replaced) after ∧
          At after later)
        (fun later _ => Spared touched start later)) world := by
  have drops := dropPartitions_keeps keyed known within agrees here
  cases some : plan.replaced with
  | nil =>
      refine ⟨table, ?_, here⟩
      simp only [List.not_mem_nil]
      exact cleared_nothing table
  | cons partition partitions =>
      rw [some] at drops
      apply keeps_bind_of drops (fun _ _ kept => kept)
      intro later _ kept
      exact kept

def Replaced (strategy : Strategy) (table : lake.Table) (place : Place lake.keys) : Prop :=
  strategy = .insertOverwrite ∧ table.registered place ∧ lake.Incoming place

theorem mem_replaced (strategy : Strategy) {existing incoming : List Partition}
    (known : Listed existing table.registered) (arriving : Listed incoming lake.Incoming)
    (partition : Partition) :
    partition ∈ (Plan.make strategy existing incoming).replaced ↔
      ∃ place, Replaced strategy table place ∧ place.1 = partition := by
  cases strategy with
  | append =>
      constructor
      · exact nofun
      · intro given
        obtain ⟨place, ⟨never, _⟩, _⟩ := given
        cases never
  | insertOverwrite =>
      change partition ∈ existing.filter (incoming.contains ·) ↔ _
      rw [List.mem_filter, List.contains_iff_mem, known, arriving]
      constructor
      · intro given
        obtain ⟨⟨place, registered, rfl⟩, other, incoming, same⟩ := given
        obtain rfl := Subtype.ext same
        exact ⟨other, ⟨rfl, registered, incoming⟩, rfl⟩
      · intro given
        obtain ⟨place, ⟨_, registered, incoming⟩, rfl⟩ := given
        exact ⟨⟨place, registered, rfl⟩, place, incoming, rfl⟩

/-- A model for the lake's table and its partitions. -/
structure Fits (lake : Lakehouse) (model : Model) : Prop where
  relation : model.relation = lake.target
  keys : model.table.partitionedBy = lake.keys

theorem Fits.partitioned {model : Model} (fits : lake.Fits model) :
    model.table.isPartitioned = true := by
  have some := lake.partitioned
  rw [← fits.keys] at some
  simpa [TableConfig.isPartitioned] using some

theorem makeRoom_keeps {model : Model} (fits : lake.Fits model) (strategy : Strategy)
    (suffix : String) (here : At table world) :
    (ExceptT.run (makeRoom model strategy (lake.target.staging suffix))).Keeps lake.calls
      (ends (fun later _ => ∃ after, Cleared table (Replaced strategy table) after ∧ At after later)
        (fun later _ => Spared lake.Incoming table later)) world := by
  unfold makeRoom
  rw [if_pos fits.partitioned, fits.keys, fits.relation]
  apply keeps_bind_of (incoming_keeps suffix here) (fun _ _ kept => At.spared kept (.refl table))
  intro later incoming kept
  obtain ⟨here, arriving⟩ := kept
  apply keeps_bind_of (existing_keeps here) (fun _ _ kept => At.spared kept (.refl table))
  intro later existing kept
  obtain ⟨here, known⟩ := kept
  have mem := mem_replaced strategy known arriving
  have same : (fun place : Place lake.keys =>
      place.1 ∈ (Plan.make strategy existing incoming).replaced) =
        Replaced strategy table := by
    funext place
    refine propext ((mem place.1).trans ⟨?_, fun holds => ⟨place, holds, rfl⟩⟩)
    intro given
    obtain ⟨other, holds, equal⟩ := given
    rwa [← Subtype.ext equal]
  have replaced : ∀ place : Place lake.keys,
      place.1 ∈ (Plan.make strategy existing incoming).replaced →
        Replaced strategy table place := fun place => (congrFun same place).mp
  rw [← same]
  refine dropReplaced_keeps ?_ (fun place member => (replaced place member).2.1)
    (fun place member => (replaced place member).2.2) (.refl table) here
  intro partition member
  obtain ⟨place, _, rfl⟩ := (mem partition).mp member
  exact place.2

/-- What a run of a strategy makes of a table. -/
structure Written (strategy : Strategy) (before after : lake.Table) : Prop where
  registered : ∀ place, after.registered place ↔ before.registered place ∨ lake.Incoming place
  replaced : ∀ place, Replaced strategy before place → after.content place = lake.arriving place
  kept : ∀ place, ¬Replaced strategy before place →
    after.content place = before.content place + lake.arriving place

theorem recordsIn_append (files others : List lake.File) (place : Place lake.keys) :
    recordsIn (files ++ others) place = recordsIn files place + recordsIn others place := by
  simp [recordsIn]

theorem arriving_eq_zero {place : Place lake.keys} (none : ¬lake.Incoming place) :
    lake.arriving place = 0 := by
  have empty : lake.staged.filter (fun record => lake.placeOf record = place) = [] := by
    rw [List.filter_eq_nil_iff]
    intro record member same
    exact none ⟨record, member, of_decide_eq_true same⟩
  rw [arriving, empty]
  rfl

theorem spares_insert (suffix : String) :
    Spares lake.Incoming (Sql.insert lake.target (lake.target.staging suffix) lake.columns) := by
  intro before pages after executes place outside
  obtain ⟨⟨files, split, added⟩, registered⟩ := executes.insert suffix rfl
  refine ⟨(registered place).trans (or_iff_left outside), ?_⟩
  rw [Table.content, split, recordsIn_append, added, arriving_eq_zero outside, Multiset.add_zero]
  rfl

theorem Cleared.written {strategy : Strategy} {suffix : String} {pages : Option String → Page}
    {before middle after : lake.Table} (cleared : Cleared before (Replaced strategy before) middle)
    (executes : lake.Executes (Sql.insert lake.target (lake.target.staging suffix) lake.columns)
      middle pages after) : Written strategy before after := by
  obtain ⟨⟨files, split, added⟩, registered⟩ := executes.insert suffix rfl
  have content : ∀ place, after.content place = middle.content place + lake.arriving place := by
    intro place
    rw [Table.content, split, recordsIn_append, added]
    rfl
  refine ⟨?_, ?_, ?_⟩
  · intro place
    rw [registered, cleared.registered]
    constructor
    · intro given
      rcases given with ⟨known, _⟩ | incoming
      · exact .inl known
      · exact .inr incoming
    · intro given
      rcases given with known | incoming
      · by_cases replaced : Replaced strategy before place
        · exact .inr replaced.2.2
        · exact .inl ⟨known, replaced⟩
      · exact .inr incoming
  · intro place replaced
    rw [content, cleared.cleared place replaced, Multiset.zero_add]
  · intro place other
    rw [content, cleared.kept place other]

theorem Cleared.spared_start {strategy : Strategy} {before middle : lake.Table}
    (cleared : Cleared before (Replaced strategy before) middle) :
    Agrees lake.Incoming before middle :=
  cleared.agrees fun _ replaced => replaced.2.2

/-- After a run the table is written, or partitions that get no rows are as they were. -/
def afterWriting {α : Type} (strategy : Strategy) (table : lake.Table) :
    lake.World → Except Error α → Prop :=
  ends (fun later _ => ∃ after, Written strategy table after ∧ At after later)
    (fun later _ => Spared lake.Incoming table later)

theorem writeFromStaging_keeps {model : Model} (fits : lake.Fits model) (strategy : Strategy)
    (suffix : String) (here : At table world) :
    (ExceptT.run (writeFromStaging model strategy (lake.target.staging suffix))).Keeps lake.calls
      (afterWriting strategy table) world := by
  unfold writeFromStaging
  rw [fits.relation]
  apply keeps_bind_of (targetColumns_keeps here) (fun _ _ kept => At.spared kept (.refl table))
  intro later columns kept
  obtain ⟨here, rfl⟩ := kept
  apply keeps_bind_of (makeRoom_keeps fits strategy suffix here) (fun _ _ kept => kept)
  intro later made kept
  obtain ⟨middle, cleared, here⟩ := kept
  have inserted := statement_keeps _ (spares_insert suffix) cleared.spared_start here
  apply keeps_bind_of inserted (fun _ _ kept => kept)
  intro later _ kept
  obtain ⟨pages, after, executes, here⟩ := kept
  exact ⟨after, cleared.written executes, here⟩

theorem writeByStaging_keeps {model : Model} (fits : lake.Fits model) (strategy : Strategy)
    (suffix location : String) {creation : String} (harmless : lake.Harmless creation)
    (here : At table world) :
    (ExceptT.run
        (writeByStaging model strategy (lake.target.staging suffix) creation location)).Keeps
      lake.calls (afterWriting strategy table) world := by
  apply keeps_bind_of (fill_keeps location harmless here)
    (fun _ _ here => here.spared (.refl table))
  intro later _ here
  exact writeFromStaging_keeps fits strategy suffix here

theorem updateTarget_keeps {model : Model} (fits : lake.Fits model) (profile : Profile)
    (strategy : Strategy) (here : At table world) :
    (ExceptT.run (updateTarget profile model strategy)).Keeps lake.calls
      (afterWriting strategy table) world := by
  rw [updateTarget_eq]
  apply keeps_bind_of (drawName_keeps profile model here)
    (fun _ _ kept => At.spared kept (.refl table))
  intro later drawn kept
  obtain ⟨here, creation⟩ := kept
  rw [stagingCreation, fits.relation] at creation
  dsimp only [ends]
  rw [fits.relation]
  apply Fallible.keeps_bind.mpr
  apply keeps_outcome.mpr
  have harmless := harmless_creation creation
  apply (writeByStaging_keeps fits strategy drawn.1 _ harmless here).mono
  intro later outcome kept
  cases outcome with
  | error error =>
      have dropped := dropStaging_keeps drawn.1 (stagingLocation profile
        (lake.target.staging drawn.1)) (calm_spared lake.Incoming table) kept
      exact keeps_bind_of dropped (fun _ _ never => never.elim) (fun _ _ spared => spared)
  | ok summary =>
      obtain ⟨after, written, here⟩ := kept
      have dropped := dropStaging_keeps drawn.1 (stagingLocation profile
        (lake.target.staging drawn.1)) (calm_at after) here
      apply keeps_bind_of dropped (fun _ _ never => never.elim)
      intro later _ here
      exact ⟨after, written, here⟩

/-- A run that succeeds has written what its strategy says, and one that fails has touched no
partitions but those that get rows. -/
theorem run_keeps {model : Model} (fits : lake.Fits model) (profile : Profile)
    {strategy : Strategy} (valid : model.incremental.validate = .ok strategy)
    (here : At table world) :
    (ExceptT.run (run profile model)).Keeps lake.calls
      (afterWriting strategy table) world := by
  rw [run, valid]
  apply Fallible.keeps_bind.mpr
  change (ExceptT.run (do Fallible.ofConfig model.table.validate; _)).Keeps _ _ _
  cases model.table.validate with
  | error => exact here.spared (.refl table)
  | ok =>
      apply Fallible.keeps_bind.mpr
      change (ExceptT.run (do
        if ← relationExists model.relation then updateTarget profile model strategy
        else createTarget profile model strategy)).Keeps _ _ _
      rw [fits.relation]
      apply keeps_bind_of (relationExists_keeps here)
        (fun _ _ kept => At.spared kept (.refl table))
      intro later found kept
      obtain ⟨here, rfl⟩ := kept
      exact updateTarget_keeps fits profile strategy here

theorem materialize_keeps (c : Client) {model : Model} (fits : lake.Fits model)
    {strategy : Strategy} (valid : model.incremental.validate = .ok strategy)
    (here : At table world) :
    (c.materialize model).run.Keeps lake.protocol (afterWriting strategy table) world :=
  (run_keeps fits c.profile valid here).translate fun world request _ =>
    carryOut_keeps c world request

end AthenaModels.Lakehouse
