import AthenaModels.Proofs.Program.Protocol
import AthenaModels.Proofs.Sql.Reading
import AthenaModels.Warehouse
import Mathlib.Data.Multiset.AddSub
import Mathlib.Logic.Function.Basic
import Mathlib.Logic.Relation

/-! A partitioned table in a lake, with an engine and a store that do what they say. The catalog has
partitions, the store has files, and either may have what the other knows nothing of. -/

namespace AthenaModels

abbrev Place (keys : List String) := {partition : Partition // partition.Keyed keys}

def Place.value {keys : List String} (place : Place keys) (key : String) : Option String :=
  (place.1.pairs.lookup key).join

/-- A table, and the records that a model has for it. -/
structure Lakehouse where
  Record : Type
  target : Relation
  columns : List String
  keys : List String
  nodup : keys.Nodup
  partitioned : keys ≠ []
  staged : List Record
  placeOf : Record → Place keys
  /-- The partition in whose directory a file lies. -/
  directory : String → Place keys

namespace Lakehouse

variable {lake : Lakehouse}

structure File (lake : Lakehouse) where
  path : String
  records : List lake.Record

structure Table (lake : Lakehouse) where
  registered : Place lake.keys → Prop
  files : List lake.File

def recordsIn (files : List lake.File) (place : Place lake.keys) : Multiset lake.Record :=
  ↑((files.filter fun file => lake.directory file.path = place).flatMap File.records)

def Table.content (table : lake.Table) (place : Place lake.keys) : Multiset lake.Record :=
  recordsIn table.files place

def arriving (lake : Lakehouse) (place : Place lake.keys) : Multiset lake.Record :=
  ↑(lake.staged.filter fun record => lake.placeOf record = place)

def Incoming (lake : Lakehouse) (place : Place lake.keys) : Prop :=
  ∃ record ∈ lake.staged, lake.placeOf record = place

def Table.without (table : lake.Table) (paths : List String) : lake.Table :=
  { table with files := table.files.filter fun file => file.path ∉ paths }

theorem without_nil (table : lake.Table) : table.without [] = table := by
  simp [Table.without]

structure Answer where
  names : List String
  rows : List Row

/-- The pages from the one with a token on. -/
inductive Chain (pages : Option String → Page) : Option String → List Page → Prop where
  | last {token : Option String} (complete : (pages token).nextToken = none) :
      Chain pages token [pages token]
  | more {token : Option String} {next : String} {others : List Page}
      (link : (pages token).nextToken = some next) (later : Chain pages (some next) others) :
      Chain pages token (pages token :: others)

/-- The pages have the rows of the answer, after one that repeats the names of its columns. -/
structure Answer.ShownBy (answer : Answer) (pages : Option String → Page) (first : Page)
    (others : List Page) : Prop where
  chain : Chain pages none (first :: others)
  uncounted : first.updateCount = none
  names : first.columns.map Column.name = answer.names
  rows : first.rows ++ others.flatMap Page.rows = answer.names.map some :: answer.rows
  header : first.rows ≠ []

def Answer.Shown (answer : Answer) (pages : Option String → Page) : Prop :=
  ∃ first others, answer.ShownBy pages first others

/-- The answer has a row for each partition with a property, and no other. -/
structure Answer.Has (answer : Answer) {keys : List String} (listed : Place keys → Prop) :
    Prop where
  names : answer.names.Perm keys
  rows : ∀ row, row ∈ answer.rows ↔ ∃ place, listed place ∧ row = answer.names.map place.value

structure Answer.Column (answer : Answer) (name : String) (texts : String → Prop) : Prop where
  names : answer.names = [name]
  rows : ∀ row, row ∈ answer.rows ↔ ∃ text, texts text ∧ row = [some text]

/-- What a statement does when it succeeds. Nothing is said of statements about other tables, except
that those about staging tables leave this one alone. -/
structure Executes (lake : Lakehouse) (sql : String) (before : lake.Table)
    (pages : Option String → Page) (after : lake.Table) : Prop where
  presence : sql = Sql.tableExists lake.target →
    after = before ∧ ∃ answer : Answer, answer.Shown pages ∧ answer.rows ≠ []
  columns : sql = Sql.columns lake.target →
    after = before ∧ ∃ answer : Answer, answer.Shown pages ∧ answer.names = ["column_name"] ∧
      answer.rows = lake.columns.map fun column => [some column]
  incoming : ∀ suffix, sql = Sql.distinctPartitions (lake.target.staging suffix) lake.keys →
    after = before ∧ ∃ answer : Answer, answer.Shown pages ∧ answer.Has lake.Incoming
  existing : sql = Sql.existingPartitions lake.target →
    after = before ∧ ∃ answer : Answer, answer.Shown pages ∧ answer.Has before.registered
  paths : ∀ text partitions,
    sql = "SELECT DISTINCT \"$path\" FROM " ++ lake.target.display ++ (" WHERE " ++ text) →
    Sql.Selects lake.keys text.toList partitions →
    after = before ∧ ∃ answer : Answer, answer.Shown pages ∧ answer.Column "$path" fun path =>
      (∃ file ∈ before.files, file.path = path) ∧ before.registered (lake.directory path) ∧
        (lake.directory path).1 ∈ partitions
  drop : ∀ text partitions,
    sql = "ALTER TABLE " ++ lake.target.ddlName ++ " DROP IF EXISTS " ++ text →
    Sql.Names lake.keys text.toList partitions →
    after.files = before.files ∧
      ∀ place, after.registered place ↔ before.registered place ∧ place.1 ∉ partitions
  insert : ∀ suffix, sql = Sql.insert lake.target (lake.target.staging suffix) lake.columns →
    (∃ files, after.files = before.files ++ files ∧
      ∀ place, recordsIn files place = lake.arriving place) ∧
      ∀ place, after.registered place ↔ before.registered place ∨ lake.Incoming place
  create : ∀ suffix text,
    sql = "CREATE TABLE " ++ (lake.target.staging suffix).display ++ text → after = before
  dropTable : ∀ suffix, sql = Sql.dropTable (lake.target.staging suffix) → after = before

inductive Phase where
  | underway
  | succeeded (pages : Option String → Page)
  | failed
  | cancelled

structure Job where
  sql : String
  phase : Phase

structure World (lake : Lakehouse) where
  table : lake.Table
  jobs : String → Option Job

namespace World

def put (world : lake.World) (id : String) (job : Job) : lake.World :=
  { world with jobs := Function.update world.jobs id (some job) }

/-- A statement comes to its end. Only one that succeeds changes the table. -/
inductive Progress : lake.World → lake.World → Prop where
  | succeeds {world : lake.World} {id sql : String} {pages : Option String → Page}
      {after : lake.Table} (underway : world.jobs id = some ⟨sql, .underway⟩)
      (executes : lake.Executes sql world.table pages after) :
      Progress world { world.put id ⟨sql, .succeeded pages⟩ with table := after }
  | fails {world : lake.World} {id sql : String}
      (underway : world.jobs id = some ⟨sql, .underway⟩) :
      Progress world (world.put id ⟨sql, .failed⟩)
  | stops {world : lake.World} {id sql : String}
      (underway : world.jobs id = some ⟨sql, .underway⟩) :
      Progress world (world.put id ⟨sql, .cancelled⟩)

/-- A state that may be told of a query: that it is over only if it is. -/
def Shows (world : lake.World) (id : String) : QueryState → Prop
  | .succeeded => ∃ sql pages, world.jobs id = some ⟨sql, .succeeded pages⟩
  | .failed => ∃ sql, world.jobs id = some ⟨sql, .failed⟩
  | .cancelled => ∃ sql, world.jobs id = some ⟨sql, .cancelled⟩
  | .queued | .running => True

/-- What an answer tells, and how it leaves the world. A refused submission starts nothing, and a
deletion that fails may have deleted some of the files. -/
def Answers (world : lake.World) : Warehouse.service.Event → lake.World → Prop
  | ⟨.start query, .ok id⟩, later =>
      world.jobs id = none ∧ later = world.put id ⟨query.sql, .underway⟩
  | ⟨.status id, .ok status⟩, later => later = world ∧ world.Shows id status.state
  | ⟨.page id token, .ok page⟩, later =>
      later = world ∧ ∀ sql pages, world.jobs id = some ⟨sql, .succeeded pages⟩ → page = pages token
  | ⟨.deleteObjects uris, .ok _⟩, later =>
      later = { world with table := world.table.without uris }
  | ⟨.deleteObjects uris, .error _⟩, later =>
      ∃ removed, removed ⊆ uris ∧ later = { world with table := world.table.without removed }
  | _, later => later = world

end World

def protocol (lake : Lakehouse) : Protocol Warehouse.service lake.World where
  allowed _ _ := True
  step world event later :=
    ∃ answered, world.Answers event answered ∧ Relation.ReflTransGen World.Progress answered later

/-- The statement leaves the table alone. -/
def Harmless (lake : Lakehouse) (sql : String) : Prop :=
  ∀ before pages after, lake.Executes sql before pages after → after = before

/-- What is still underway leaves the table alone. -/
def World.Settled (world : lake.World) : Prop :=
  ∀ id sql, world.jobs id = some ⟨sql, .underway⟩ → lake.Harmless sql

end Lakehouse
end AthenaModels
