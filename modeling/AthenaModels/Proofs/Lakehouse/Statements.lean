import AthenaModels.Proofs.Lakehouse.Calls
import AthenaModels.Proofs.Table.Creation

namespace AthenaModels.Lakehouse

open Materialization

variable {lake : Lakehouse} {table before after : lake.Table} {pages : Option String → Page}

theorem harmless_tableExists : lake.Harmless (Sql.tableExists lake.target) :=
  fun _ _ _ executes => (executes.presence rfl).1

theorem harmless_columns : lake.Harmless (Sql.columns lake.target) :=
  fun _ _ _ executes => (executes.columns rfl).1

theorem harmless_distinctPartitions (suffix : String) :
    lake.Harmless (Sql.distinctPartitions (lake.target.staging suffix) lake.keys) :=
  fun _ _ _ executes => (executes.incoming suffix rfl).1

theorem harmless_existingPartitions : lake.Harmless (Sql.existingPartitions lake.target) :=
  fun _ _ _ executes => (executes.existing rfl).1

theorem harmless_dropTable (suffix : String) :
    lake.Harmless (Sql.dropTable (lake.target.staging suffix)) :=
  fun _ _ _ executes => executes.dropTable suffix rfl

theorem harmless_creation {t : TableConfig} {suffix sql location text : String}
    (creation : t.creation (lake.target.staging suffix) sql location = .ok text) :
    lake.Harmless text := by
  intro before pages after executes
  refine executes.create suffix ("\nWITH (\n  " ++ ",\n  ".intercalate (t.properties location) ++
    "\n)\nAS\n" ++ TableConfig.body sql) ?_
  obtain ⟨_, rfl⟩ := TableConfig.creation_ok_iff.mp creation
  simp only [String.append_assoc]

structure Part (lake : Lakehouse) (partitions : List Partition) : Prop where
  nonempty : partitions ≠ []
  keyed : ∀ partition ∈ partitions, partition.Keyed lake.keys

theorem Part.selects {partitions : List Partition} (part : lake.Part partitions) :
    Sql.Selects lake.keys
      (" OR ".intercalate (partitions.map fun p => "(" ++ p.predicate ++ ")")).toList partitions :=
  Sql.selects_predicates part.nonempty lake.partitioned part.keyed

theorem Part.names {partitions : List Partition} (part : lake.Part partitions) :
    Sql.Names lake.keys
      (", ".intercalate (partitions.map fun p => "PARTITION " ++ p.spec)).toList partitions :=
  Sql.names_specs part.nonempty lake.partitioned part.keyed

theorem Part.filePaths_eq {partitions : List Partition} (part : lake.Part partitions) :
    Sql.filePaths lake.target partitions = "SELECT DISTINCT \"$path\" FROM " ++
      lake.target.display ++ (" WHERE " ++
        " OR ".intercalate (partitions.map fun p => "(" ++ p.predicate ++ ")")) := by
  have some : ¬(partitions.isEmpty = true) := by simpa using part.nonempty
  unfold Sql.filePaths
  exact congrArg _ (if_neg some)

theorem Part.harmless_filePaths {partitions : List Partition} (part : lake.Part partitions) :
    lake.Harmless (Sql.filePaths lake.target partitions) :=
  fun _ _ _ executes => (executes.paths _ _ part.filePaths_eq part.selects).1

def Located (table : lake.Table) (partitions : List Partition) (paths : List String) : Prop :=
  ∀ path, path ∈ paths ↔ (∃ file ∈ table.files, file.path = path) ∧
    table.registered (lake.directory path) ∧ (lake.directory path).1 ∈ partitions

theorem Part.located {partitions : List Partition} (part : lake.Part partitions) {result : Result}
    {paths : List String} (executes : lake.Executes (Sql.filePaths lake.target partitions) table
      pages table)
    (read : ReadFrom pages result) (texts : texts? "$path" result = some paths) :
    Located table partitions paths := by
  obtain ⟨_, answer, ⟨first, others, shown⟩, column⟩ :=
    executes.paths _ _ part.filePaths_eq part.selects
  obtain ⟨names, rows⟩ := shown.read read
  exact texts_of_column column names rows texts

/-- The table without some partitions in the catalog; their files are still there. -/
structure Dropped (before : lake.Table) (partitions : List Partition) (after : lake.Table) :
    Prop where
  files : after.files = before.files
  registered : ∀ place, after.registered place ↔ before.registered place ∧ place.1 ∉ partitions

theorem Part.dropped {partitions : List Partition} (part : lake.Part partitions)
    (executes : lake.Executes (Sql.dropPartitions lake.target partitions) before pages after) :
    Dropped before partitions after := by
  obtain ⟨files, registered⟩ := executes.drop _ _ rfl part.names
  exact ⟨files, registered⟩

def Listed (partitions : List Partition) (listed : Place lake.keys → Prop) : Prop :=
  ∀ partition, partition ∈ partitions ↔ ∃ place, listed place ∧ place.1 = partition

theorem listed_incoming {suffix : String} {result : Result} {partitions : List Partition}
    (executes : lake.Executes (Sql.distinctPartitions (lake.target.staging suffix) lake.keys) table
      pages table)
    (read : ReadFrom pages result) (found : partitions? lake.keys result = some partitions) :
    Listed partitions lake.Incoming := by
  obtain ⟨_, answer, ⟨first, others, shown⟩, has⟩ := executes.incoming suffix rfl
  obtain ⟨names, rows⟩ := shown.read read
  exact partitions_of_has has names rows found

theorem listed_existing {result : Result} {partitions : List Partition}
    (executes : lake.Executes (Sql.existingPartitions lake.target) table pages table)
    (read : ReadFrom pages result) (found : partitions? lake.keys result = some partitions) :
    Listed partitions table.registered := by
  obtain ⟨_, answer, ⟨first, others, shown⟩, has⟩ := executes.existing rfl
  obtain ⟨names, rows⟩ := shown.read read
  exact partitions_of_has has names rows found

theorem columns_of_executes {result : Result} {found : List String}
    (executes : lake.Executes (Sql.columns lake.target) table pages table)
    (read : ReadFrom pages result) (texts : texts? "column_name" result = some found) :
    found = lake.columns := by
  obtain ⟨_, answer, ⟨first, others, shown⟩, one, listed⟩ := executes.columns rfl
  obtain ⟨names, rows⟩ := shown.read read
  exact columns_of_rows (names.trans one) (rows.trans listed) texts

theorem rows_of_tableExists {result : Result}
    (executes : lake.Executes (Sql.tableExists lake.target) table pages table)
    (read : ReadFrom pages result) : result.rows ≠ [] := by
  obtain ⟨_, answer, ⟨first, others, shown⟩, some⟩ := executes.presence rfl
  obtain ⟨_, rows⟩ := shown.read read
  rwa [rows]

end AthenaModels.Lakehouse
