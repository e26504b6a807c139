import AthenaModels.Client.Materialization
import AthenaModels.Proofs.Chunk
import AthenaModels.Proofs.Partition.Listing
import AthenaModels.Proofs.Program.Schedule

namespace AthenaModels.Materialization

open Fallible Program

abbrev reads {α : Type} (sql : String) (read? : Result → Option α) (value : α) : Step service :=
  ⟨.query sql, fun reply => ∃ result, reply = .ok result ∧ read? result = some value, []⟩

abbrev executes (sql : String) : Step service :=
  ⟨.statement sql, fun reply => ∃ metadata, reply = .ok metadata, []⟩

abbrev fills (sql location : String) : Step service :=
  ⟨.fill sql location, fun reply => ∃ metadata, reply = .ok metadata, []⟩

abbrev deletes (uris : List String) (count : Nat) : Step service :=
  ⟨.deleteObjects uris, fun reply => reply = .ok count, []⟩

def columns? (result : Result) : Option (List String) :=
  (texts? "column_name" result).filter (!·.isEmpty)

def readReply {α : Type} (read? : Result → Option α) (missing : String) :
    Except Error Result → Except Error α
  | .error error => .error error
  | .ok result => (read? result).elim (.error (.malformed missing)) .ok

theorem run_reading {α : Type} (sql : String) (read? : Result → Option α) (missing : String) :
    ExceptT.run (reading sql read? missing) =
      Program.ask (S := service) (.query sql) fun reply =>
        .done (readReply read? missing reply) := by
  refine congrArg (Program.ask _) (funext fun reply => ?_)
  cases reply with
  | error error => rfl
  | ok result =>
      cases value : read? result <;> simp [ExceptT.bindCont, readReply, value] <;> rfl

theorem reading_performs {α : Type} {good : α → Prop} (sql : String) (read? : Result → Option α)
    (missing : String) (sound : ∀ result value, read? result = some value → good value)
    (inhabited : ∃ value, good value) :
    Performs (reading sql read? missing) fun steps value =>
      steps = [reads sql read? value] ∧ good value := by
  refine performs_ask_good (fun value => (reads sql read? value).succeeds) _
    (run_reading sql read? missing) ?_ ?_ inhabited
  · intro reply value read
    cases reply with
    | error error => cases read
    | ok result =>
        cases found : read? result with
        | none => simp [readReply, found] at read
        | some value' =>
            simp only [readReply, found, Option.elim, Except.ok.injEq] at read
            subst read
            exact ⟨⟨result, rfl, found⟩, sound result value' found⟩
  · intro reply value error given
    obtain ⟨result, rfl, found⟩ := given
    simp [readReply, found]

def noMetadata : Metadata := ⟨"", 0, 0, .succeeded, none, 0, ⟨0, 0⟩⟩

theorem statement_performs (sql : String) :
    Performs (statement sql) fun steps _ => steps = [executes sql] := by
  refine performs_ask noMetadata (fun _ => (executes sql).succeeds) id rfl
    (fun reply metadata read => ⟨metadata, read⟩) ?_
  intro reply _ error given
  obtain ⟨metadata, rfl⟩ := given
  exact nofun

theorem fill_performs (sql location : String) :
    Performs (fill sql location) fun steps _ => steps = [fills sql location] := by
  refine performs_ask noMetadata (fun _ => (fills sql location).succeeds) id rfl
    (fun reply metadata read => ⟨metadata, read⟩) ?_
  intro reply _ error given
  obtain ⟨metadata, rfl⟩ := given
  exact nofun

theorem deleteObjects_performs (uris : List String) :
    Performs (deleteObjects uris) fun steps count => steps = [deletes uris count] := by
  refine performs_ask 0 (fun count => (deletes uris count).succeeds) id rfl
    (fun reply count read => read) ?_
  intro reply count error same
  subst same
  exact nofun

theorem textsOf_performs (column sql : String) :
    Performs (textsOf column sql) fun steps texts => steps = [reads sql (texts? column) texts] :=
  (reading_performs sql (texts? column) _ (fun _ _ _ => trivial) ⟨[], trivial⟩).mono
    fun _ _ => And.left

def columnsReply (target : Relation) (reply : Except Error Result) : Except Error (List String) :=
  (readReply (texts? "column_name") ("column_name" ++ " missing from result") reply).bind
    fun columns =>
      if columns = [] then .error (.malformed ("no columns found for " ++ target.display))
      else .ok columns

theorem run_targetColumns (target : Relation) :
    ExceptT.run (targetColumns target) =
      Program.ask (S := service) (.query (Sql.columns target)) fun reply =>
        .done (columnsReply target reply) := by
  change (ExceptT.run (reading _ _ _)).bind _ = _
  rw [run_reading, ask_bind]
  refine congrArg (Program.ask _) (funext fun reply => ?_)
  rw [done_bind, columnsReply]
  cases readReply (texts? "column_name") ("column_name" ++ " missing from result") reply with
  | error error => rfl
  | ok columns => cases columns <;> rfl

theorem targetColumns_performs (target : Relation) :
    Performs (targetColumns target) fun steps columns =>
      steps = [reads (Sql.columns target) columns? columns] := by
  refine performs_ask [] (fun columns => (reads (Sql.columns target) columns? columns).succeeds) _
    (run_targetColumns target) ?_ ?_
  · intro reply columns read
    cases reply with
    | error error => cases read
    | ok result =>
        refine ⟨result, rfl, ?_⟩
        cases found : texts? "column_name" result with
        | none => simp [columnsReply, readReply, found, Except.bind] at read
        | some texts =>
            cases texts with
            | nil => simp [columnsReply, readReply, found, Except.bind] at read
            | cons text texts =>
                simp only [columnsReply, readReply, found, Option.elim, Except.bind] at read
                cases read
                simp [columns?, found]
  · intro reply columns error given read
    obtain ⟨result, rfl, found⟩ := given
    obtain ⟨found, nonempty⟩ := Option.filter_eq_some_iff.mp found
    simp_all [columnsReply, readReply, Except.bind]

theorem partitionsFrom_performs (sql : String) (keys : List String) :
    Performs (partitionsFrom sql keys) fun steps partitions =>
      steps = [reads sql (partitions? keys) partitions] ∧
        ∀ partition ∈ partitions, partition.pairs.map Prod.fst = keys :=
  reading_performs sql (partitions? keys) _
    (fun _ _ read _ member => keys_of_mem_partitions read member) ⟨[], nofun⟩

def partitionLookups (target staging : Relation) (keys : List String)
    (incoming existing : List Partition) : List (Step service) :=
  [reads (Sql.distinctPartitions staging keys) (partitions? keys) incoming,
    reads (Sql.existingPartitions target) (partitions? keys) existing]

def fileLookups (target : Relation) (chunks : List (List Partition)) (files : List (List String)) :
    List (Step service) :=
  List.zipWith (fun chunk => reads (Sql.filePaths target chunk) (texts? "$path")) chunks files

def removals (target : Relation) (chunks : List (List Partition)) (files : List (List String))
    (deleted : Nat) : List (Step service) :=
  chunks.map (fun chunk => executes (Sql.dropPartitions target chunk)) ++
    if files.flatten = [] then [] else [deletes files.flatten deleted]

/-- What the world tells a run of a model that overwrites partitions. -/
structure Course where
  suffix : String
  creation : String
  columns : List String
  incoming : List Partition
  existing : List Partition
  files : List (List String)
  deleted : Nat

def cleanups (staging : Relation) (location : String) : List Request :=
  [.statement (Sql.dropTable staging), .deletePrefix location]

def stagingCreation (profile : Profile) (model : Model) (suffix : String) :
    Except ConfigError String :=
  let staging := model.relation.staging suffix
  let location := stagingLocation profile staging
  (TableConfig.staging location).creation staging model.sql location

namespace Course

variable (course : Course) (profile : Profile) (model : Model)

def staging : Relation := model.relation.staging course.suffix

def location : String := stagingLocation profile (course.staging model)

def plan : Plan := Plan.make .insertOverwrite course.existing course.incoming

def chunks : List (List Partition) := Chunk.ofList Plan.maxPartitions course.plan.replaced

def summary : Summary := ⟨model.relation, .insertOverwrite, false, course.plan, course.deleted⟩

def existence (relation : Relation) : Step service :=
  reads (Sql.tableExists relation) (fun result => if result.rows.isEmpty then none else some ()) ()

def naming : Step service :=
  ⟨.freshSuffix, fun suffix => suffix = course.suffix ∧
    stagingCreation profile model course.suffix = .ok course.creation, []⟩

def work : List (Step service) :=
  fills course.creation (course.location profile model) ::
    reads (Sql.columns model.relation) columns? course.columns ::
      (partitionLookups model.relation (course.staging model) model.table.partitionedBy
          course.incoming course.existing ++
        fileLookups model.relation course.chunks course.files ++
        removals model.relation course.chunks course.files course.deleted ++
        [executes (Sql.insert model.relation (course.staging model) course.columns)])

def cleanup : List Request := cleanups (course.staging model) (course.location profile model)

def update : List (Step service) :=
  course.naming profile model ::
    ((course.work profile model).map (Step.guarded (course.cleanup profile model)) ++
      (course.cleanup profile model).map Step.always)

def steps : List (Step service) := existence model.relation :: course.update profile model

/-- The parts of the replaced partitions make them all up; none is empty or too long, and no
partition is without a value. For each part its files are known. -/
structure Sound : Prop where
  chunks_flatten : course.chunks.flatten = course.plan.replaced
  chunk : ∀ chunk ∈ course.chunks, chunk ≠ [] ∧ chunk.length ≤ Plan.maxPartitions
  partition : ∀ partition ∈ course.plan.replaced, partition.pairs ≠ []
  files_length : course.files.length = course.chunks.length
  deleted : course.files.flatten = [] → course.deleted = 0

variable {course model}

theorem sound_of_keys (partitioned : model.table.isPartitioned = true)
    (keys : ∀ partition ∈ course.incoming,
      partition.pairs.map Prod.fst = model.table.partitionedBy)
    (length : course.files.length = course.chunks.length)
    (deleted : course.files.flatten = [] → course.deleted = 0) : course.Sound where
  chunks_flatten := Chunk.ofList_flatten (by decide) _
  chunk _ member := Chunk.mem_ofList (by decide) member
  files_length := length
  deleted := deleted
  partition := by
    intro partition member empty
    have replaced : partition ∈ course.existing.filter (course.incoming.contains ·) := member
    obtain ⟨_, arrives⟩ := List.mem_filter.mp replaced
    have none := keys partition (List.contains_iff_mem.mp arrives)
    rw [empty, List.map_nil] at none
    rw [TableConfig.isPartitioned, ← none] at partitioned
    cases partitioned

end Course

theorem execute_performs (sql : String) :
    Performs (do let _ ← statement sql : Materialization Unit) fun steps _ =>
      steps = [executes sql] := by
  refine (performs_bind (statement_performs sql) fun _ => performs_pure ()).mono ?_
  intro _ _ given
  obtain ⟨before, _, after, rfl, ⟨rfl, _⟩, rfl⟩ := given
  rfl

theorem deleteFiles_performs (files : List String) :
    Performs (if files.isEmpty then return 0 else deleteObjects files : Materialization Nat)
      fun steps deleted => (files = [] → deleted = 0) ∧
        steps = if files = [] then [] else [deletes files deleted] := by
  cases files with
  | nil =>
      apply (performs_pure 0).mono
      intro _ _ given
      obtain ⟨rfl, rfl⟩ := given
      exact ⟨fun _ => rfl, rfl⟩
  | cons file files =>
      apply (deleteObjects_performs (file :: files)).mono
      intro _ deleted same
      subst same
      exact ⟨nofun, rfl⟩

theorem dropPartitions_performs (target : Relation) (partitions : List Partition) :
    Performs (dropPartitions target partitions) fun steps deleted => ∃ files : List (List String),
      files.length = (Chunk.ofList Plan.maxPartitions partitions).length ∧
        (files.flatten = [] → deleted = 0) ∧
        steps = fileLookups target (Chunk.ofList Plan.maxPartitions partitions) files ++
          removals target (Chunk.ofList Plan.maxPartitions partitions) files deleted := by
  have lookups := performs_mapM
    (fun chunk => textsOf_performs "$path" (Sql.filePaths target chunk))
    (Chunk.ofList Plan.maxPartitions partitions)
  have drops := performs_forM
    (fun chunk => execute_performs (Sql.dropPartitions target chunk))
    (Chunk.ofList Plan.maxPartitions partitions)
  refine (performs_bind lookups fun files =>
    performs_bind drops fun _ => deleteFiles_performs files.flatten).mono ?_
  intro _ deleted given
  obtain ⟨_, files, _, ⟨length, rfl⟩, ⟨_, _, _, rfl, ⟨none, rfl⟩, rfl⟩, rfl⟩ := given
  exact ⟨files, length, none, rfl⟩

theorem dropSome_performs (target : Relation) (plan : Plan) :
    Performs (if plan.replaced.isEmpty then return (plan, 0)
        else return (plan, ← dropPartitions target plan.replaced) : Materialization (Plan × Nat))
      fun steps made => ∃ files : List (List String),
        files.length = (Chunk.ofList Plan.maxPartitions plan.replaced).length ∧
          (files.flatten = [] → made.2 = 0) ∧ made.1 = plan ∧
          steps = fileLookups target (Chunk.ofList Plan.maxPartitions plan.replaced) files ++
            removals target (Chunk.ofList Plan.maxPartitions plan.replaced) files made.2 := by
  cases none : plan.replaced with
  | nil =>
      apply (performs_pure (plan, 0)).mono
      intro _ _ given
      obtain ⟨rfl, rfl⟩ := given
      exact ⟨[], rfl, fun _ => rfl, rfl, rfl⟩
  | cons partition partitions =>
      have drops := dropPartitions_performs target (partition :: partitions)
      refine (performs_bind drops fun deleted => performs_pure (plan, deleted)).mono ?_
      intro _ _ given
      obtain ⟨_, deleted, _, ⟨files, length, zero, rfl⟩, ⟨rfl, rfl⟩, rfl⟩ := given
      exact ⟨files, length, zero, rfl, by rw [List.append_nil]⟩

theorem makeRoom_performs (model : Model) (staging : Relation)
    (partitioned : model.table.isPartitioned = true) :
    Performs (makeRoom model .insertOverwrite staging) fun steps made =>
      ∃ incoming existing files, let plan := Plan.make .insertOverwrite existing incoming
        let chunks := Chunk.ofList Plan.maxPartitions plan.replaced
        (∀ partition ∈ incoming, partition.pairs.map Prod.fst = model.table.partitionedBy) ∧
        files.length = chunks.length ∧ (files.flatten = [] → made.2 = 0) ∧ made.1 = plan ∧
        steps = partitionLookups model.relation staging model.table.partitionedBy incoming
            existing ++ (fileLookups model.relation chunks files ++
              removals model.relation chunks files made.2) := by
  have inserted := partitionsFrom_performs
    (Sql.distinctPartitions staging model.table.partitionedBy) model.table.partitionedBy
  have listed := partitionsFrom_performs (Sql.existingPartitions model.relation)
    model.table.partitionedBy
  rw [makeRoom, if_pos partitioned]
  refine (performs_bind inserted fun incoming => performs_bind listed fun existing =>
    dropSome_performs model.relation (Plan.make .insertOverwrite existing incoming)).mono ?_
  rintro _ made ⟨_, incoming, _, ⟨rfl, keys⟩, ⟨_, existing, _, ⟨rfl, _⟩, ⟨files, length, zero, plan,
    rfl⟩, rfl⟩, rfl⟩
  exact ⟨incoming, existing, files, keys, length, zero, plan, rfl⟩

theorem writeByStaging_performs (model : Model) (staging : Relation) (creation location : String)
    (partitioned : model.table.isPartitioned = true) :
    Performs (writeByStaging model .insertOverwrite staging creation location) fun steps summary =>
      ∃ columns incoming existing files deleted,
        let plan := Plan.make .insertOverwrite existing incoming
        let chunks := Chunk.ofList Plan.maxPartitions plan.replaced
        (∀ partition ∈ incoming, partition.pairs.map Prod.fst = model.table.partitionedBy) ∧
        files.length = chunks.length ∧ (files.flatten = [] → deleted = 0) ∧
        summary = ⟨model.relation, .insertOverwrite, false, plan, deleted⟩ ∧
        steps = fills creation location :: reads (Sql.columns model.relation) columns? columns ::
          (partitionLookups model.relation staging model.table.partitionedBy incoming existing ++
            fileLookups model.relation chunks files ++
            removals model.relation chunks files deleted ++
            [executes (Sql.insert model.relation staging columns)]) := by
  have finishes : ∀ columns plan deleted, Performs (do
        let _ ← statement (Sql.insert model.relation staging columns)
        return (⟨model.relation, .insertOverwrite, false, plan, deleted⟩ : Summary))
      fun steps summary => steps = [executes (Sql.insert model.relation staging columns)] ∧
        summary = ⟨model.relation, .insertOverwrite, false, plan, deleted⟩ := by
    intro columns plan deleted
    refine (performs_bind (statement_performs _) fun _ => performs_pure _).mono ?_
    intro _ _ given
    obtain ⟨_, _, _, rfl, ⟨rfl, rfl⟩, rfl⟩ := given
    exact ⟨rfl, rfl⟩
  refine (performs_bind (fill_performs creation location) fun _ =>
    performs_bind (targetColumns_performs model.relation) fun columns =>
      performs_bind (makeRoom_performs model staging partitioned) fun made =>
        finishes columns made.1 made.2).mono ?_
  rintro _ _ ⟨_, _, _, rfl, ⟨_, columns, _, rfl, ⟨_, ⟨_, deleted⟩, _, ⟨incoming, existing, files,
    keys, length, zero, rfl, rfl⟩, ⟨rfl, rfl⟩, rfl⟩, rfl⟩, rfl⟩
  refine ⟨columns, incoming, existing, files, deleted, keys, length, zero, rfl, ?_⟩
  simp only [List.cons_append, List.nil_append, List.append_assoc]

theorem dropStaging_winds {staging : Relation} {location : String}
    {outcome : Except Error Summary} {events : List service.Event}
    {rest : Program service (Except Error Summary)}
    (ran : Runs
      (ExceptT.run (do dropStaging staging location; Fallible.ofExcept outcome)) events rest) :
    WindsUp outcome (cleanups staging location) events rest := by
  rcases runs_ask.mp ran with ⟨rfl, rfl⟩ | ⟨dropped, later, rfl, second⟩
  · exact .pending
  · rcases runs_ask.mp second with ⟨rfl, rfl⟩ | ⟨emptied, last, rfl, third⟩
    · exact .answered .pending
    · have complete : Runs (.done outcome) last rest := by
        cases outcome <;> exact third
      obtain ⟨rfl, rfl⟩ := runs_done.mp complete
      exact .answered (.answered .complete)

def drawName (profile : Profile) (model : Model) : Materialization (String × String) := do
  let suffix ← freshSuffix
  let creation ← Fallible.ofConfig (stagingCreation profile model suffix)
  return (suffix, creation)

def drawReply (profile : Profile) (model : Model) (suffix : String) :
    Except Error (String × String) :=
  match stagingCreation profile model suffix with
  | .error error => .error (.config error)
  | .ok creation => .ok (suffix, creation)

theorem run_drawName (profile : Profile) (model : Model) :
    ExceptT.run (drawName profile model) =
      Program.ask (S := service) .freshSuffix fun suffix =>
        .done (drawReply profile model suffix) := by
  refine congrArg (Program.ask _) (funext fun suffix => ?_)
  change ExceptT.run (do
    let creation ← Fallible.ofConfig (stagingCreation profile model suffix)
    return (suffix, creation)) = _
  rw [drawReply]
  cases stagingCreation profile model suffix <;> rfl

theorem drawName_performs (profile : Profile) (model : Model) :
    Performs (drawName profile model) fun steps drawn =>
      steps = [⟨.freshSuffix, fun suffix => suffix = drawn.1 ∧
        stagingCreation profile model drawn.1 = .ok drawn.2, []⟩] := by
  refine performs_ask ("", "") (fun drawn suffix => suffix = drawn.1 ∧
    stagingCreation profile model drawn.1 = .ok drawn.2) _ (run_drawName profile model) ?_ ?_
  · intro suffix drawn read
    cases creation : stagingCreation profile model suffix with
    | error error => simp [drawReply, creation] at read
    | ok text =>
        simp only [drawReply, creation, Except.ok.injEq] at read
        subst read
        exact ⟨rfl, creation⟩
  · intro suffix drawn error given
    obtain ⟨rfl, creation⟩ := given
    simp [drawReply, creation]

theorem updateTarget_eq (profile : Profile) (model : Model) (strategy : Strategy) :
    updateTarget profile model strategy = (do
      let drawn ← drawName profile model
      let staging := model.relation.staging drawn.1
      let location := stagingLocation profile staging
      let outcome ← (writeByStaging model strategy staging drawn.2 location).outcome
      dropStaging staging location
      Fallible.ofExcept outcome) := by
  simp only [updateTarget, drawName, LawfulMonad.bind_assoc, LawfulMonad.pure_bind, stagingCreation]

theorem updateTarget_performs (profile : Profile) (model : Model)
    (partitioned : model.table.isPartitioned = true) :
    Performs (updateTarget profile model .insertOverwrite) fun steps summary =>
      ∃ course : Course, course.Sound ∧ summary = course.summary model ∧
        steps = course.update profile model := by
  rw [updateTarget_eq]
  refine (performs_bind (drawName_performs profile model) fun drawn =>
    performs_finally (writeByStaging_performs model _ drawn.2 _ partitioned)
      fun _ _ _ ran => dropStaging_winds ran).mono ?_
  rintro _ _ ⟨_, ⟨suffix, creation⟩, _, rfl, ⟨_, ⟨columns, incoming, existing, files, deleted,
    keys, length, zero, rfl, rfl⟩, rfl⟩, rfl⟩
  let course : Course := ⟨suffix, creation, columns, incoming, existing, files, deleted⟩
  exact ⟨course, Course.sound_of_keys partitioned keys length zero, rfl, rfl⟩

theorem run_of_error {profile : Profile} {model : Model} {error : ConfigError}
    (invalid : model.incremental.validate = .error error ∨
      ∃ strategy, model.incremental.validate = .ok strategy ∧ model.table.validate = .error error) :
    ExceptT.run (run profile model) = .done (.error (.config error)) := by
  rcases invalid with strategy | ⟨strategy, named, settings⟩
  · rw [run, strategy]
    rfl
  · rw [run, named, settings]
    rfl

theorem run_of_valid {profile : Profile} {model : Model} {strategy : Strategy}
    (named : model.incremental.validate = .ok strategy) (settings : model.table.validate = .ok ()) :
    ExceptT.run (run profile model) = ExceptT.run (do
      let found ← relationExists model.relation
      if found then updateTarget profile model strategy
      else createTarget profile model strategy) := by
  rw [run, named, settings]
  rfl

/-- A run of a model that overwrites partitions is refused, or finds that there is no table, or
follows a course. -/
theorem run_follows {profile : Profile} {model : Model} {events : List service.Event}
    {rest : Program service (Except Error Summary)}
    (partitioned : model.table.isPartitioned = true)
    (overwrites : model.incremental.validate = .ok .insertOverwrite)
    (ran : Runs (ExceptT.run (run profile model)) events rest) :
    (events = [] ∧ ∃ error, rest = .done (.error error)) ∨
    (∃ result later, events = ⟨.query (Sql.tableExists model.relation), .ok result⟩ :: later ∧
      result.rows = []) ∨
    ∃ course : Course, course.Sound ∧
      Follows (course.summary model) (course.steps profile model) events rest := by
  rw [run, overwrites] at ran
  change Runs (ExceptT.run (do Fallible.ofConfig model.table.validate; _)) events rest at ran
  cases valid : model.table.validate with
  | error error =>
      rw [valid] at ran
      obtain ⟨rfl, rfl⟩ := runs_done.mp ran
      exact .inl ⟨rfl, _, rfl⟩
  | ok =>
      rw [valid] at ran
      have updates := updateTarget_performs profile model partitioned
      rcases runs_ask.mp ran with ⟨rfl, rfl⟩ | ⟨reply, later, rfl, second⟩
      · obtain ⟨_, _, ⟨course, sound, rfl, rfl⟩, _⟩ := updates [] _ (.stop _)
        exact .inr (.inr ⟨course, sound, .pending (Course.existence model.relation)⟩)
      · cases reply with
        | error error =>
            obtain ⟨_, _, ⟨course, sound, rfl, rfl⟩, _⟩ := updates [] _ (.stop _)
            obtain ⟨rfl, rfl⟩ := runs_done.mp second
            have follows : Follows (course.summary model) (course.steps profile model)
                [⟨.query (Sql.tableExists model.relation), .error error⟩] (.done (.error error)) :=
              .failed (Course.existence model.relation) nofun .complete
            exact .inr (.inr ⟨course, sound, follows⟩)
        | ok result =>
            cases rows : result.rows with
            | nil => exact .inr (.inl ⟨result, later, rfl, rows⟩)
            | cons row others =>
                have continued : Runs (ExceptT.run
                    (if !result.rows.isEmpty then updateTarget profile model .insertOverwrite
                      else createTarget profile model .insertOverwrite)) later rest := second
                rw [rows, if_pos (by rfl)] at continued
                obtain ⟨_, _, ⟨course, sound, rfl, rfl⟩, follows⟩ := updates later rest continued
                refine .inr (.inr ⟨course, sound,
                  .succeeded (Course.existence model.relation) ⟨result, rfl, ?_⟩ follows⟩)
                simp only [rows, List.isEmpty_cons, Bool.false_eq_true, if_false]

end AthenaModels.Materialization
