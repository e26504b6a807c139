import AthenaModels.Proofs.Materialization.Schedule
import AthenaModels.Proofs.Program.Protocol

namespace AthenaModels.Materialization

open Fallible Program

def Lists (model : Model) (past : List service.Event) (uri : String) : Prop :=
  ∃ partitions result texts,
    ⟨.query (Sql.filePaths model.relation partitions), .ok result⟩ ∈ past ∧
      texts? "$path" result = some texts ∧ uri ∈ texts

def Undeleted (past : List service.Event) : Prop :=
  ∀ uris reply, ⟨.deleteObjects uris, reply⟩ ∉ past

/-- The requests while a table is written from its staging table. -/
inductive Writes (model : Model) (suffix : String) (past : List service.Event) :
    Request → Prop where
  | columns : Writes model suffix past (.query (Sql.columns model.relation))
  | incoming : Writes model suffix past
      (.query (Sql.distinctPartitions (model.relation.staging suffix) model.table.partitionedBy))
  | existing : Writes model suffix past (.query (Sql.existingPartitions model.relation))
  | files (overwrites : model.incremental.validate = .ok .insertOverwrite)
      (partitions : List Partition) :
      Writes model suffix past (.query (Sql.filePaths model.relation partitions))
  | alter (overwrites : model.incremental.validate = .ok .insertOverwrite)
      (partitions : List Partition) :
      Writes model suffix past (.statement (Sql.dropPartitions model.relation partitions))
  | delete {uris : List String} (overwrites : model.incremental.validate = .ok .insertOverwrite)
      (undeleted : Undeleted past) (listed : ∀ uri ∈ uris, Lists model past uri) :
      Writes model suffix past (.deleteObjects uris)
  | insert (columns : List String) : Writes model suffix past
      (.statement (Sql.insert model.relation (model.relation.staging suffix) columns))

def Missing (model : Model) (past : List service.Event) : Prop :=
  ∃ result later, past = ⟨.query (Sql.tableExists model.relation), .ok result⟩ :: later ∧
    result.rows = []

def Present (model : Model) (past : List service.Event) : Prop :=
  ∃ result later, past = ⟨.query (Sql.tableExists model.relation), .ok result⟩ :: later ∧
    result.rows ≠ []

structure Named (model : Model) (suffix : String) (past : List service.Event) : Prop where
  present : Present model past
  drawn : ⟨.freshSuffix, suffix⟩ ∈ past

structure Placed (model : Model) (uuid : String) (past : List service.Event) : Prop where
  missing : Missing model past
  drawn : model.table.location = none → ⟨.freshUuid, uuid⟩ ∈ past

/-- The requests of a run. -/
inductive Asks (profile : Profile) (model : Model) (past : List service.Event) :
    Request → Prop where
  | presence (first : past = []) : Asks profile model past (.query (Sql.tableExists model.relation))
  | uuid (missing : Missing model past) : Asks profile model past .freshUuid
  | create {uuid text : String} (placed : Placed model uuid past)
      (made : model.table.creation model.relation model.sql
        (model.table.resolveLocation profile uuid) = .ok text) :
      Asks profile model past (.fill text (model.table.resolveLocation profile uuid))
  | suffix (present : Present model past) (undrawn : ∀ suffix, ⟨.freshSuffix, suffix⟩ ∉ past) :
      Asks profile model past .freshSuffix
  | stage {suffix text : String} (named : Named model suffix past)
      (made : stagingCreation profile model suffix = .ok text) :
      Asks profile model past (.fill text (stagingLocation profile (model.relation.staging suffix)))
  | write {suffix : String} {request : Request} (named : Named model suffix past)
      (writes : Writes model suffix past request) : Asks profile model past request
  | discard {suffix : String} (named : Named model suffix past) :
      Asks profile model past (.statement (Sql.dropTable (model.relation.staging suffix)))
  | clear {suffix : String} {reply : Except Error Metadata} (named : Named model suffix past)
      (dropped : ⟨.statement (Sql.dropTable (model.relation.staging suffix)), reply⟩ ∈ past) :
      Asks profile model past
        (.deletePrefix (stagingLocation profile (model.relation.staging suffix)))

variable {profile : Profile} {model : Model} {suffix : String} {past : List service.Event}

theorem Present.append (present : Present model past) (later : List service.Event) :
    Present model (past ++ later) := by
  obtain ⟨result, others, rfl, rows⟩ := present
  exact ⟨result, others ++ later, rfl, rows⟩

theorem Missing.append (missing : Missing model past) (later : List service.Event) :
    Missing model (past ++ later) := by
  obtain ⟨result, others, rfl, rows⟩ := missing
  exact ⟨result, others ++ later, rfl, rows⟩

theorem Named.append (named : Named model suffix past) (later : List service.Event) :
    Named model suffix (past ++ later) :=
  ⟨named.present.append later, List.mem_append_left later named.drawn⟩

theorem Lists.append {uri : String} (lists : Lists model past uri) (later : List service.Event) :
    Lists model (past ++ later) uri := by
  obtain ⟨partitions, result, texts, member, read, listed⟩ := lists
  exact ⟨partitions, result, texts, List.mem_append_left later member, read, listed⟩

theorem Undeleted.snoc {event : service.Event} (undeleted : Undeleted past)
    (other : ∀ uris, event.request ≠ .deleteObjects uris) : Undeleted (past ++ [event]) := by
  intro uris reply member
  rcases List.mem_append.mp member with early | late
  · exact undeleted uris reply early
  · rw [← List.mem_singleton.mp late] at other
    exact other uris rfl

theorem reading_keeps {α : Type} {sql missing : String} {read? : Result → Option α}
    {allowed : List service.Event → Request → Prop} (permitted : allowed past (.query sql)) :
    (ExceptT.run (reading sql read? missing)).Keeps (.ofPast allowed)
      (ends (fun later value => ∃ result, later = past ++ [⟨.query sql, .ok result⟩] ∧
        read? result = some value) (fun later _ => ∃ reply, later = past ++ [⟨.query sql, reply⟩]))
      past := by
  rw [run_reading]
  refine ⟨permitted, ?_⟩
  rintro reply _ rfl
  cases reply with
  | error error => exact ⟨_, rfl⟩
  | ok result =>
      cases found : read? result with
      | none =>
          simp only [readReply, found]
          exact ⟨_, rfl⟩
      | some value =>
          simp only [readReply, found]
          exact ⟨result, rfl, found⟩

abbrev writing (model : Model) (suffix : String) : Protocol service (List service.Event) :=
  .ofPast (Writes model suffix)

theorem reading_keeps_undeleted {α : Type} {sql missing : String} {read? : Result → Option α}
    (undeleted : Undeleted past) (writes : Writes model suffix past (.query sql)) :
    (ExceptT.run (reading sql read? missing)).Keeps (writing model suffix)
      (ends (fun later _ => Undeleted later) (fun _ _ => True)) past := by
  refine keeps_of_ends (reading_keeps writes) (fun _ _ _ => trivial) ?_
  rintro _ value ⟨result, rfl, _⟩
  exact undeleted.snoc nofun

theorem targetColumns_keeps (undeleted : Undeleted past) :
    (ExceptT.run (targetColumns model.relation)).Keeps (writing model suffix)
      (ends (fun later _ => Undeleted later) (fun _ _ => True)) past := by
  refine keeps_bind_of (reading_keeps_undeleted undeleted .columns) (fun _ _ _ => trivial) ?_
  intro later columns undeleted
  dsimp only
  split
  · trivial
  · exact undeleted

theorem dataFiles_keeps (overwrites : model.incremental.validate = .ok .insertOverwrite)
    (partitions : List Partition) (undeleted : Undeleted past) :
    (ExceptT.run (dataFiles (Sql.filePaths model.relation partitions))).Keeps (writing model suffix)
      (ends (fun later files => Undeleted later ∧
          (∀ other : List String, (∀ uri ∈ other, Lists model past uri) →
            ∀ uri ∈ other, Lists model later uri) ∧ ∀ uri ∈ files, Lists model later uri)
        (fun later _ => Undeleted later)) past := by
  refine keeps_of_ends (reading_keeps (.files overwrites partitions)) ?_ ?_
  · rintro _ error ⟨reply, rfl⟩
    exact undeleted.snoc nofun
  · rintro _ files ⟨result, rfl, read⟩
    refine ⟨undeleted.snoc nofun, fun other lists uri member => (lists uri member).append _, ?_⟩
    intro uri member
    exact ⟨partitions, result, files, List.mem_append_right _ List.mem_cons_self, read, member⟩

structure Surveyed (model : Model) (uris : List String) (past : List service.Event) : Prop where
  undeleted : Undeleted past
  listed : ∀ uri ∈ uris, Lists model past uri

theorem deleteObjects_keeps {uris : List String}
    (overwrites : model.incremental.validate = .ok .insertOverwrite)
    (surveyed : Surveyed model uris past) :
    (ExceptT.run (deleteObjects uris)).Keeps (writing model suffix) (fun _ _ => True) past :=
  keeps_request_ofPast.mpr
    ⟨.delete overwrites surveyed.undeleted surveyed.listed, fun _ => trivial⟩

theorem dropPartitions_keeps (overwrites : model.incremental.validate = .ok .insertOverwrite)
    (partitions : List Partition) (undeleted : Undeleted past) :
    (ExceptT.run (dropPartitions model.relation partitions)).Keeps (writing model suffix)
      (fun _ _ => True) past := by
  refine keeps_bind_of (keeps_mapM (fun chunk _ => dataFiles_keeps overwrites chunk) undeleted)
    (fun _ _ _ => trivial) ?_
  rintro middle files ⟨undeleted, _, listed⟩
  have surveyed : Surveyed model files.flatten middle := by
    refine ⟨undeleted, ?_⟩
    intro uri member
    obtain ⟨list, among, inside⟩ := List.mem_flatten.mp member
    exact listed list among uri inside
  have drops : ∀ chunk state, Surveyed model files.flatten state →
      (ExceptT.run (do let _ ← statement (Sql.dropPartitions model.relation chunk) :
        Materialization Unit)).Keeps (writing model suffix)
        (ends (fun later _ => Surveyed model files.flatten later)
          (fun later _ => Surveyed model files.flatten later)) state := by
    intro chunk state surveyed
    refine Fallible.keeps_bind.mpr (keeps_request_ofPast.mpr ⟨.alter overwrites chunk, ?_⟩)
    intro reply
    have still : Surveyed model files.flatten (state ++ [⟨.statement _, reply⟩]) :=
      ⟨surveyed.undeleted.snoc nofun, fun uri member => (surveyed.listed uri member).append _⟩
    cases reply with
    | error => exact still
    | ok => exact still
  refine keeps_bind_of (keeps_forM drops surveyed) (fun _ _ _ => trivial) ?_
  intro later _ surveyed
  split
  · trivial
  · exact deleteObjects_keeps overwrites surveyed

theorem overwrites_of_replaced {strategy : Strategy} {existing incoming : List Partition}
    (some : (Plan.make strategy existing incoming).replaced.isEmpty = false) :
    strategy = .insertOverwrite := by
  cases strategy with
  | append => cases some
  | insertOverwrite => rfl

theorem makeRoom_keeps {strategy : Strategy} (valid : model.incremental.validate = .ok strategy)
    (undeleted : Undeleted past) :
    (ExceptT.run (makeRoom model strategy (model.relation.staging suffix))).Keeps
      (writing model suffix) (fun _ _ => True) past := by
  unfold makeRoom
  split
  · refine keeps_bind_of (reading_keeps_undeleted undeleted .incoming) (fun _ _ _ => trivial) ?_
    intro middle incoming undeleted
    refine keeps_bind_of (reading_keeps_undeleted undeleted .existing) (fun _ _ _ => trivial) ?_
    intro later existing undeleted
    dsimp only
    cases none : (Plan.make strategy existing incoming).replaced.isEmpty with
    | true => trivial
    | false =>
        rw [if_neg nofun]
        rw [overwrites_of_replaced none] at valid
        exact keeps_bind_any (dropPartitions_keeps valid _ undeleted) (fun _ _ => trivial)
          fun _ _ => trivial
  · cases strategy with
    | append => trivial
    | insertOverwrite =>
        refine keeps_bind_of (dataFiles_keeps valid [] undeleted) (fun _ _ _ => trivial) ?_
        rintro middle files ⟨undeleted, _, listed⟩
        exact keeps_bind_any (deleteObjects_keeps valid ⟨undeleted, listed⟩) (fun _ _ => trivial)
          fun _ _ => trivial

theorem writeFromStaging_keeps {strategy : Strategy}
    (valid : model.incremental.validate = .ok strategy) (undeleted : Undeleted past) :
    (ExceptT.run (writeFromStaging model strategy (model.relation.staging suffix))).Keeps
      (writing model suffix) (fun _ _ => True) past := by
  refine keeps_bind_of (targetColumns_keeps undeleted) (fun _ _ _ => trivial) ?_
  intro middle columns undeleted
  refine keeps_bind_any (makeRoom_keeps valid undeleted) (fun _ _ => trivial) ?_
  intro later room
  exact keeps_bind_any (keeps_request_ofPast.mpr ⟨.insert columns, fun _ => trivial⟩)
    (fun _ _ => trivial) fun _ _ => trivial

theorem writeByStaging_keeps {strategy : Strategy} {creation : String}
    (valid : model.incremental.validate = .ok strategy) (named : Named model suffix past)
    (undeleted : Undeleted past) (made : stagingCreation profile model suffix = .ok creation) :
    (ExceptT.run (writeByStaging model strategy (model.relation.staging suffix) creation
      (stagingLocation profile (model.relation.staging suffix)))).Keeps
      (.ofPast (Asks profile model)) (fun later _ => Named model suffix later) past := by
  refine Fallible.keeps_bind.mpr (keeps_request_ofPast.mpr ⟨.stage named made, ?_⟩)
  intro reply
  cases reply with
  | error => exact named.append _
  | ok =>
      refine Keeps.mono ((writeFromStaging_keeps valid (undeleted.snoc ?_)).permitted
        (named.append _) (fun _ _ named => named.append _)
        fun _ _ named writes => .write named writes) fun _ _ => And.left
      exact nofun

theorem dropStaging_keeps {outcome : Except Error Summary} (named : Named model suffix past) :
    (ExceptT.run (do
      dropStaging (model.relation.staging suffix)
        (stagingLocation profile (model.relation.staging suffix))
      Fallible.ofExcept outcome)).Keeps (.ofPast (Asks profile model)) (fun _ _ => True) past := by
  refine ⟨.discard named, ?_⟩
  rintro reply _ rfl
  refine ⟨.clear (named.append _) (List.mem_append_right _ List.mem_cons_self), ?_⟩
  rintro emptied _ rfl
  exact keeps_ofExcept.mpr trivial

theorem updateTarget_keeps {strategy : Strategy} (valid : model.incremental.validate = .ok strategy)
    (present : Present model past) (undrawn : ∀ suffix, ⟨.freshSuffix, suffix⟩ ∉ past)
    (undeleted : Undeleted past) :
    (ExceptT.run (updateTarget profile model strategy)).Keeps (.ofPast (Asks profile model))
      (fun _ _ => True) past := by
  rw [updateTarget_eq]
  refine Fallible.keeps_bind.mpr ?_
  rw [run_drawName]
  refine ⟨.suffix present undrawn, ?_⟩
  rintro suffix _ rfl
  cases made : stagingCreation profile model suffix with
  | error error =>
      simp only [drawReply, made]
      trivial
  | ok creation =>
      simp only [drawReply, made]
      have named : Named model suffix (past ++ [⟨.freshSuffix, suffix⟩]) :=
        ⟨present.append _, List.mem_append_right _ List.mem_cons_self⟩
      have still : Undeleted (past ++ [⟨.freshSuffix, suffix⟩]) := by
        refine undeleted.snoc ?_
        rintro _ ⟨⟩
      have writes := writeByStaging_keeps valid named still made
      refine Fallible.keeps_bind.mpr (keeps_outcome.mpr (writes.mono ?_))
      exact fun later outcome named => dropStaging_keeps named

theorem locate_keeps (missing : Missing model past) :
    (ExceptT.run (locate profile model.table)).Keeps (.ofPast (Asks profile model))
      (ends (fun later location => ∃ uuid, location = model.table.resolveLocation profile uuid ∧
        Placed model uuid later) (fun _ _ => True)) past := by
  unfold locate
  cases place : model.table.location with
  | some location =>
      refine ⟨"", ?_, missing, ?_⟩
      · rw [TableConfig.resolveLocation, place]
        rfl
      · rw [place]
        exact nofun
  | none =>
      refine Fallible.keeps_bind.mpr (keeps_lift.mpr (keeps_request_ofPast.mpr
        ⟨.uuid missing, ?_⟩))
      intro uuid
      exact ⟨uuid, rfl, missing.append _, fun _ => List.mem_append_right _ List.mem_cons_self⟩

theorem createTarget_keeps {strategy : Strategy} (missing : Missing model past) :
    (ExceptT.run (createTarget profile model strategy)).Keeps (.ofPast (Asks profile model))
      (fun _ _ => True) past := by
  refine keeps_bind_of (locate_keeps missing) (fun _ _ _ => trivial) ?_
  rintro later _ ⟨uuid, rfl, placed⟩
  cases made : model.table.creation model.relation model.sql
      (model.table.resolveLocation profile uuid) with
  | error error => trivial
  | ok creation =>
      refine Fallible.keeps_bind.mpr (keeps_request_ofPast.mpr ⟨.create placed made, ?_⟩)
      intro reply
      cases reply <;> trivial

theorem relationExists_keeps (profile : Profile) (model : Model) :
    (ExceptT.run (relationExists model.relation)).Keeps (.ofPast (Asks profile model))
      (ends (fun later found => ∃ result,
          later = [⟨.query (Sql.tableExists model.relation), .ok result⟩] ∧
            found = !result.rows.isEmpty)
        (fun _ _ => True)) [] := by
  refine Fallible.keeps_bind.mpr (keeps_request_ofPast.mpr ⟨.presence rfl, ?_⟩)
  intro reply
  cases reply with
  | error error => trivial
  | ok result => exact ⟨result, rfl, rfl⟩

/-- A run asks for nothing before it has learnt and done what that calls for. -/
theorem run_keeps (profile : Profile) (model : Model) :
    (ExceptT.run (run profile model)).Keeps (.ofPast (Asks profile model)) (fun _ _ => True)
      [] := by
  cases valid : model.incremental.validate with
  | error error =>
      rw [run_of_error (.inl valid)]
      trivial
  | ok strategy =>
      cases settings : model.table.validate with
      | error error =>
          rw [run_of_error (.inr ⟨strategy, valid, settings⟩)]
          trivial
      | ok =>
          rw [run_of_valid valid settings]
          refine keeps_bind_of (relationExists_keeps profile model) (fun _ _ _ => trivial) ?_
          rintro _ _ ⟨result, rfl, rfl⟩
          cases rows : result.rows with
          | nil => exact createTarget_keeps ⟨result, [], rfl, rows⟩
          | cons row others =>
              have present : Present model
                  [⟨.query (Sql.tableExists model.relation), .ok result⟩] :=
                ⟨result, [], rfl, by rw [rows]; exact List.cons_ne_nil _ _⟩
              refine updateTarget_keeps valid present ?_ ?_
              · intro suffix member
                cases List.mem_singleton.mp member
              · intro uris reply member
                cases List.mem_singleton.mp member

end AthenaModels.Materialization
