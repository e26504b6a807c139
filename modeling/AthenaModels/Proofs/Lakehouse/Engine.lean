import AthenaModels.Partition.Plan
import AthenaModels.Proofs.Lakehouse.Progress

/-! An engine and a store that do what they say. They carry out each statement at once. -/

open Relation (ReflTransGen)

namespace AthenaModels.Lakehouse

variable {lake : Lakehouse} {sql : String}

inductive Kind where
  | presence
  | columns
  | incoming
  | existing
  | paths
  | drop
  | insert
  | other
deriving DecidableEq, Repr

def bytes (text : String) : List UInt8 := text.toByteArray.data.toList

theorem bytes_append (text more : String) : bytes (text ++ more) = bytes text ++ bytes more := by
  simp [bytes]

def opens (stem text : String) : Bool := (bytes stem).isPrefixOf (bytes text)

def Kind.of (sql : String) : Kind :=
  if opens "SELECT t" sql then .presence
  else if opens "SELECT c" sql then .columns
  else if opens "SELECT *" sql then .existing
  else if opens "SELECT DISTINCT \"" sql then .paths
  else if opens "SELECT" sql then .incoming
  else if opens "ALTER" sql then .drop
  else if opens "INSERT" sql then .insert
  else .other

theorem kind_tableExists (r : Relation) : Kind.of (Sql.tableExists r) = .presence := by
  unfold Sql.tableExists
  simp only [String.append_assoc, Kind.of, opens, bytes_append]
  rfl

theorem kind_columns (r : Relation) : Kind.of (Sql.columns r) = .columns := by
  unfold Sql.columns
  simp only [String.append_assoc, Kind.of, opens, bytes_append]
  rfl

theorem kind_existingPartitions (r : Relation) :
    Kind.of (Sql.existingPartitions r) = .existing := by
  unfold Sql.existingPartitions
  simp only [Kind.of, opens, bytes_append]
  rfl

theorem kind_paths (r : Relation) (text : String) :
    Kind.of ("SELECT DISTINCT \"$path\" FROM " ++ r.display ++ text) = .paths := by
  simp only [String.append_assoc, Kind.of, opens, bytes_append]
  rfl

theorem kind_distinctPartitions (r : Relation) {keys : List String}
    (plain : opens "\"" (", ".intercalate keys) = false) :
    Kind.of (Sql.distinctPartitions r keys) = .incoming := by
  unfold Sql.distinctPartitions
  have unquoted : opens "SELECT DISTINCT \""
      ("SELECT DISTINCT " ++ ", ".intercalate keys ++ " FROM " ++ r.display) = false := by
    rw [opens] at plain
    simp only [String.append_assoc, opens, bytes_append]
    cases first : bytes (", ".intercalate keys) with
    | nil => rfl
    | cons byte rest =>
        rw [first] at plain
        exact plain
  simp only [Kind.of, unquoted]
  simp only [String.append_assoc, opens, bytes_append]
  rfl

theorem kind_dropPartitions (r : Relation) (text : String) :
    Kind.of ("ALTER TABLE " ++ r.ddlName ++ " DROP IF EXISTS " ++ text) = .drop := by
  simp only [String.append_assoc, Kind.of, opens, bytes_append]
  rfl

theorem kind_insert (target source : Relation) (columns : List String) :
    Kind.of (Sql.insert target source columns) = .insert := by
  unfold Sql.insert
  simp only [String.append_assoc, Kind.of, opens, bytes_append]
  rfl

theorem kind_create (r : Relation) (text : String) :
    Kind.of ("CREATE TABLE " ++ r.display ++ text) = .other := by
  simp only [String.append_assoc, Kind.of, opens, bytes_append]
  rfl

theorem kind_dropTable (r : Relation) : Kind.of (Sql.dropTable r) = .other := by
  unfold Sql.dropTable
  simp only [Kind.of, opens, bytes_append]
  rfl

def Answer.page (answer : Answer) : Page :=
  ⟨answer.names.map fun name => ⟨name, "varchar"⟩, answer.names.map some :: answer.rows, none, none⟩

theorem Answer.shown_page (answer : Answer) : answer.Shown fun _ => answer.page := by
  refine ⟨answer.page, [], .last rfl, rfl, ?_, ?_, List.cons_ne_nil _ _⟩
  · rw [page, List.map_map]
    exact List.map_id _
  · rw [List.flatMap_nil, List.append_nil]
    rfl

def Answer.listing {keys : List String} (places : List (Place keys)) : Answer where
  names := keys
  rows := places.map fun place => keys.map place.value

theorem Answer.has_listing {keys : List String} (places : List (Place keys)) :
    (listing places).Has (· ∈ places) where
  names := .refl keys
  rows row := by
    rw [listing, List.mem_map]
    simp only [eq_comm]

def Answer.column (name : String) (texts : List String) : Answer where
  names := [name]
  rows := texts.map fun text => [some text]

theorem Answer.column_column (name : String) (texts : List String) :
    (column name texts).Column name (· ∈ texts) where
  names := rfl
  rows row := by
    rw [column, List.mem_map]
    simp only [eq_comm]

def Answer.nothing : Answer := ⟨[], []⟩

/-- How an engine names the files that it writes. It must not take a column for a path. -/
structure Engine (lake : Lakehouse) where
  plain : opens "\"" (", ".intercalate lake.keys) = false
  path : Nat → lake.Record → String
  inside : ∀ number, ∀ record ∈ lake.staged,
    lake.directory (path number record) = lake.placeOf record

structure Ledger (lake : Lakehouse) where
  known : List (Place lake.keys)
  files : List lake.File
  jobs : String → Option Job
  submitted : Nat
  /-- How many deletions are yet to be refused. -/
  refusals : Nat

namespace Ledger

def table (ledger : lake.Ledger) : lake.Table := ⟨(· ∈ ledger.known), ledger.files⟩

def world (ledger : lake.Ledger) : lake.World := ⟨ledger.table, ledger.jobs⟩

def put (ledger : lake.Ledger) (id : String) (job : Job) : lake.Ledger :=
  { ledger with
    jobs := Function.update ledger.jobs id (some job)
    submitted := ledger.submitted + 1 }

def Idle (ledger : lake.Ledger) : Prop :=
  ∀ id sql, ledger.jobs id ≠ some ⟨sql, .underway⟩

theorem Idle.put {ledger : lake.Ledger} {id : String} {job : Job} (idle : ledger.Idle)
    (complete : job.phase ≠ .underway) : (ledger.put id job).Idle := by
  intro other text underway
  have held : (ledger.world.put id job).jobs other = some ⟨text, .underway⟩ := underway
  rcases World.underway_of_put held with ⟨_, rfl⟩ | ⟨_, before⟩
  · exact complete rfl
  · exact idle other text before

theorem Idle.settled {ledger : lake.Ledger} (idle : ledger.Idle) : ledger.world.Settled :=
  fun id sql underway => absurd underway (idle id sql)

def pathsIn (ledger : lake.Ledger) (partitions : List Partition) : List String :=
  (ledger.files.map File.path).filter fun path =>
    lake.directory path ∈ ledger.known ∧ (lake.directory path).1 ∈ partitions

theorem mem_pathsIn (ledger : lake.Ledger) {partitions : List Partition} {path : String} :
    path ∈ ledger.pathsIn partitions ↔
      (∃ file ∈ ledger.table.files, file.path = path) ∧
        ledger.table.registered (lake.directory path) ∧ (lake.directory path).1 ∈ partitions := by
  rw [pathsIn, List.mem_filter, List.mem_map, decide_eq_true_iff]
  rfl

end Ledger

def partitionsAfter? (stem separator : String) (reader : Sql.Reader Partition) (sql : String) :
    Option (List Partition) := do
  Sql.readList separator reader Plan.maxPartitions (← stem.toList.isPrefixOf? sql.toList)

namespace Engine

def newFiles (engine : lake.Engine) (number : Nat) : List lake.File :=
  lake.staged.map fun record => ⟨engine.path number record, [record]⟩

def execute (engine : lake.Engine) (ledger : lake.Ledger) (sql : String) :
    Option (Answer × lake.Ledger) :=
  match Kind.of sql with
  | .presence => some (.column "table_name" [lake.target.identifier], ledger)
  | .columns => some (.column "column_name" lake.columns, ledger)
  | .incoming => some (.listing (lake.staged.map lake.placeOf), ledger)
  | .existing => some (.listing ledger.known, ledger)
  | .paths => do
      let partitions ← partitionsAfter? ("SELECT DISTINCT \"$path\" FROM " ++ lake.target.display ++
        " WHERE ") " OR " (Sql.readGroup "(" " AND " Sql.readCondition lake.keys) sql
      some (.column "$path" (ledger.pathsIn partitions), ledger)
  | .drop => do
      let partitions ← partitionsAfter?
        ("ALTER TABLE " ++ lake.target.ddlName ++ " DROP IF EXISTS ") ", "
        (Sql.readGroup "PARTITION (" ", " Sql.readValue lake.keys) sql
      some (.nothing, { ledger with known := ledger.known.filter (·.1 ∉ partitions) })
  | .insert =>
      some (.nothing, { ledger with
        known := ledger.known ++ lake.staged.map lake.placeOf
        files := ledger.files ++ engine.newFiles ledger.submitted })
  | .other => some (.nothing, ledger)

theorem recordsIn_newFiles (engine : lake.Engine) (number : Nat) (place : Place lake.keys) :
    recordsIn (engine.newFiles number) place = lake.arriving place := by
  rw [recordsIn, arriving, newFiles]
  apply congrArg Multiset.ofList
  have inside := engine.inside number
  generalize lake.staged = records at inside ⊢
  induction records with
  | nil => rfl
  | cons record records ih =>
      have later := ih fun other member => inside other (List.mem_cons_of_mem _ member)
      simp only [List.map_cons, List.filter_cons, inside record List.mem_cons_self]
      split
      · rw [List.flatMap_cons, later]
        rfl
      · exact later

variable {engine : lake.Engine} {ledger later : lake.Ledger} {answer : Answer}

theorem partitionsAfter?_unique {stem separator text : String} {reader : Sql.Reader Partition}
    {partitions others : List Partition} (some : separator.toList ≠ [])
    (read : partitionsAfter? stem separator reader (stem ++ text) = .some others)
    (lists : Sql.Lists separator reader text.toList partitions) : others = partitions := by
  rw [partitionsAfter?, String.toList_append, Sql.isPrefixOf?_append] at read
  exact (Sql.lists_of_readList read).unique some lists

theorem executes (done : engine.execute ledger sql = some (answer, later)) :
    lake.Executes sql ledger.table (fun _ => answer.page) later.table where
  presence := by
    intro same
    subst same
    rw [execute, kind_tableExists] at done
    cases done
    exact ⟨rfl, _, Answer.shown_page _, List.cons_ne_nil _ _⟩
  columns := by
    intro same
    subst same
    rw [execute, kind_columns] at done
    cases done
    exact ⟨rfl, _, Answer.shown_page _, rfl, rfl⟩
  incoming := by
    intro suffix same
    subst same
    rw [execute, kind_distinctPartitions _ engine.plain] at done
    cases done
    have same : lake.Incoming = (· ∈ lake.staged.map lake.placeOf) := by
      funext place
      exact propext List.mem_map.symm
    refine ⟨rfl, _, Answer.shown_page _, ?_⟩
    rw [same]
    exact Answer.has_listing _
  existing := by
    intro same
    subst same
    rw [execute, kind_existingPartitions] at done
    cases done
    exact ⟨rfl, _, Answer.shown_page _, Answer.has_listing ledger.known⟩
  paths := by
    intro text partitions same selects
    subst same
    rw [execute, kind_paths] at done
    obtain ⟨others, read, same⟩ := Option.bind_eq_some_iff.mp done
    cases same
    rw [← String.append_assoc] at read
    obtain rfl := partitionsAfter?_unique (by decide) read selects
    refine ⟨rfl, _, Answer.shown_page _, ?_⟩
    simp only [← ledger.mem_pathsIn]
    exact Answer.column_column _ _
  drop := by
    intro text partitions same names
    subst same
    rw [execute, kind_dropPartitions] at done
    obtain ⟨others, read, same⟩ := Option.bind_eq_some_iff.mp done
    cases same
    obtain rfl := partitionsAfter?_unique (by decide) read names
    refine ⟨rfl, ?_⟩
    intro place
    exact List.mem_filter.trans (and_congr_right fun _ => decide_eq_true_iff)
  insert := by
    intro suffix same
    subst same
    rw [execute, kind_insert] at done
    cases done
    refine ⟨⟨_, rfl, engine.recordsIn_newFiles ledger.submitted⟩, ?_⟩
    intro place
    exact List.mem_append.trans (or_congr_right List.mem_map)
  create := by
    intro suffix text same
    subst same
    rw [execute, kind_create] at done
    cases done
    rfl
  dropTable := by
    intro suffix same
    subst same
    rw [execute, kind_dropTable] at done
    cases done
    rfl

theorem execute_jobs (done : engine.execute ledger sql = some (answer, later)) :
    later.jobs = ledger.jobs := by
  rw [execute] at done
  split at done
  case h_5 | h_6 =>
    obtain ⟨partitions, _, same⟩ := Option.bind_eq_some_iff.mp done
    cases same
    rfl
  all_goals
    cases done
    rfl

def serve (engine : lake.Engine) :
    (r : Warehouse.Request) → lake.Ledger → Warehouse.Reply r × lake.Ledger
  | .start query, ledger =>
      let id := String.ofList (List.replicate ledger.submitted 'q')
      match ledger.jobs id with
      | some _ => (.error (.service "the id is taken"), ledger)
      | none =>
          match engine.execute ledger query.sql with
          | some (answer, later) =>
              (.ok id, later.put id ⟨query.sql, .succeeded fun _ => answer.page⟩)
          | none => (.ok id, ledger.put id ⟨query.sql, .failed⟩)
  | .status id, ledger =>
      match ledger.jobs id with
      | some ⟨_, .succeeded _⟩ => (.ok ⟨.succeeded, none, 0, 0, none⟩, ledger)
      | some ⟨_, .failed⟩ => (.ok ⟨.failed, none, 0, 0, none⟩, ledger)
      | _ => (.error (.service "no such query"), ledger)
  | .page id token, ledger =>
      match ledger.jobs id with
      | some ⟨_, .succeeded pages⟩ => (.ok (pages token), ledger)
      | _ => (.error (.service "no such result"), ledger)
  | .stop _, ledger => (.ok (), ledger)
  | .deleteObjects uris, ledger =>
      match ledger.refusals with
      | 0 => (.ok uris.length,
          { ledger with files := ledger.files.filter fun file => file.path ∉ uris })
      | refusals + 1 => (.error (.storage "refused"), { ledger with refusals := refusals })
  | .deletePrefix _, ledger => (.ok 0, ledger)
  | .sleep _, ledger => ((), ledger)
  | .clock, ledger => ((0 : Nat), ledger)
  | .now, ledger => ((⟨0, 0⟩ : Timestamp), ledger)
  | .freshSuffix, ledger => ("suffix", ledger)
  | .freshUuid, ledger => ("uuid", ledger)

theorem serve_start (engine : lake.Engine) (query : QueryRequest) (ledger : lake.Ledger) :
    lake.protocol.step ledger.world ⟨.start query, (engine.serve (.start query) ledger).1⟩
      (engine.serve (.start query) ledger).2.world := by
  unfold serve
  dsimp only
  generalize String.ofList (List.replicate ledger.submitted 'q') = id
  cases held : ledger.jobs id with
  | some => exact ⟨ledger.world, rfl, .refl⟩
  | none =>
      have underway : (ledger.world.put id ⟨query.sql, .underway⟩).jobs id =
          some ⟨query.sql, .underway⟩ := World.put_self
      refine ⟨ledger.world.put id ⟨query.sql, .underway⟩, ?_⟩
      cases done : engine.execute ledger query.sql with
      | none =>
          have fails := World.Progress.fails underway
          rw [World.put_put] at fails
          exact ⟨⟨held, rfl⟩, .single fails⟩
      | some outcome =>
          obtain ⟨answer, later⟩ := outcome
          have succeeds := World.Progress.succeeds underway (engine.executes done)
          rw [World.put_put] at succeeds
          refine ⟨⟨held, rfl⟩, ?_⟩
          have same : (later.put id ⟨query.sql, .succeeded fun _ => answer.page⟩).world =
              { ledger.world.put id ⟨query.sql, .succeeded fun _ => answer.page⟩ with
                table := later.table } := by
            rw [Ledger.world, Ledger.put, execute_jobs done]
            rfl
          rw [← same] at succeeds
          exact .single succeeds

theorem serve_step (engine : lake.Engine) (request : Warehouse.Request) (ledger : lake.Ledger) :
    lake.protocol.step ledger.world ⟨request, (engine.serve request ledger).1⟩
      (engine.serve request ledger).2.world := by
  cases request with
  | start query => exact engine.serve_start query ledger
  | status id =>
      unfold serve
      dsimp only
      split
      · rename_i held
        exact ⟨_, ⟨rfl, _, _, held⟩, .refl⟩
      · rename_i held
        exact ⟨_, ⟨rfl, _, held⟩, .refl⟩
      · exact ⟨_, rfl, .refl⟩
  | page id token =>
      unfold serve
      dsimp only
      split
      · rename_i held
        refine ⟨_, ⟨rfl, ?_⟩, .refl⟩
        intro sql pages other
        cases held.symm.trans other
        rfl
      · exact ⟨_, rfl, .refl⟩
  | deleteObjects uris =>
      unfold serve
      dsimp only
      split
      · exact ⟨_, rfl, .refl⟩
      · refine ⟨_, ⟨[], List.nil_subset _, rfl⟩, ?_⟩
        have same : ledger.world.table.without [] = ledger.table := without_nil _
        rw [same]
        exact .refl
  | stop | deletePrefix | sleep | clock | now | freshSuffix | freshUuid =>
      exact ⟨ledger.world, rfl, .refl⟩

theorem serve_idle (engine : lake.Engine) (request : Warehouse.Request) (ledger : lake.Ledger)
    (idle : ledger.Idle) : (engine.serve request ledger).2.Idle := by
  cases request with
  | start query =>
      unfold serve
      dsimp only
      split
      · exact idle
      · split
        · rename_i done
          refine Ledger.Idle.put ?_ nofun
          rw [Ledger.Idle, execute_jobs done]
          exact idle
        · exact idle.put nofun
  | status => unfold serve; dsimp only; split <;> exact idle
  | page => unfold serve; dsimp only; split <;> exact idle
  | deleteObjects => unfold serve; dsimp only; split <;> exact idle
  | stop | deletePrefix | sleep | clock | now | freshSuffix | freshUuid => exact idle

end Engine

end AthenaModels.Lakehouse
