import AthenaModels.Proofs.Sql.Reading
import AthenaModels.Proofs.Table.Creation

/-! What a statement does is told by how it starts, and where a table is created by what follows. A
look at the files of a table is told by both its ends. -/

namespace AthenaModels.Sql

inductive Verb where
  | select
  | create
  | alter
  | insert
  | drop
deriving DecidableEq, Repr

namespace Verb

def stem : Verb → String
  | .select => "SELECT "
  | .create => "CREATE TABLE "
  | .alter => "ALTER TABLE "
  | .insert => "INSERT INTO "
  | .drop => "DROP TABLE "

def Opens (verb : Verb) (sql : String) : Prop := Text.startsWith verb.stem sql = true

instance (verb : Verb) (sql : String) : Decidable (verb.Opens sql) :=
  inferInstanceAs (Decidable (Text.startsWith verb.stem sql = true))

theorem startsWith_append {front text : String} (starts : Text.startsWith front text = true)
    (tail : String) : Text.startsWith front (text ++ tail) = true := by
  rw [Text.startsWith_iff] at starts ⊢
  rw [String.toList_append]
  exact starts.trans (List.prefix_append _ _)

theorem Opens.append {verb : Verb} {sql : String} (opens : verb.Opens sql) (tail : String) :
    verb.Opens (sql ++ tail) :=
  startsWith_append opens tail

theorem eq_of_stems {verb other : Verb} (first : verb.stem.toList <+: other.stem.toList) :
    verb = other := by
  revert first
  cases verb <;> cases other <;> decide

/-- Texts with fronts that do not go on alike are different. -/
theorem ne_of_fronts {front other text sql : String} (first : Text.startsWith front text = true)
    (second : Text.startsWith other sql = true) (apart : ¬ front.toList <+: other.toList)
    (away : ¬ other.toList <+: front.toList) : text ≠ sql := by
  rintro rfl
  rw [Text.startsWith_iff] at first second
  rcases List.prefix_or_prefix_of_prefix first second with shorter | longer
  · exact apart shorter
  · exact away longer

theorem Opens.unique {verb other : Verb} {sql : String} (first : verb.Opens sql)
    (second : other.Opens sql) : verb = other := by
  by_cases same : verb = other
  · exact same
  · exact absurd rfl (ne_of_fronts first second (fun shorter => same (eq_of_stems shorter))
      fun longer => same (eq_of_stems longer).symm)

end Verb

open Verb

theorem opens_tableExists (r : Relation) : select.Opens (tableExists r) := by
  have front : select.Opens "SELECT table_name FROM " := by decide
  exact ((front.append _).append _).append _

theorem opens_columns (r : Relation) : select.Opens (columns r) := by
  have front : select.Opens "SELECT column_name FROM " := by decide
  exact (((front.append _).append _).append _).append _

theorem opens_distinctPartitions (r : Relation) (keys : List String) :
    select.Opens (distinctPartitions r keys) := by
  have front : select.Opens "SELECT DISTINCT " := by decide
  exact ((front.append _).append _).append _

theorem opens_existingPartitions (r : Relation) : select.Opens (existingPartitions r) := by
  have front : select.Opens "SELECT * FROM " := by decide
  exact front.append _

theorem opens_filePaths (r : Relation) (partitions : List Partition) :
    select.Opens (filePaths r partitions) := by
  have front : select.Opens "SELECT DISTINCT \"$path\" FROM " := by decide
  exact (front.append _).append _

theorem opens_dropPartitions (r : Relation) (partitions : List Partition) :
    alter.Opens (dropPartitions r partitions) := by
  have front : alter.Opens "ALTER TABLE " := by decide
  exact ((front.append _).append _).append _

theorem opens_insert (target source : Relation) (names : List String) :
    Verb.insert.Opens (Sql.insert target source names) := by
  have front : Verb.insert.Opens "INSERT INTO " := by decide
  exact ((((((front.append _).append _).append _).append _).append _).append _).append _

theorem opens_dropTable (r : Relation) : drop.Opens (dropTable r) := by
  have front : drop.Opens "DROP TABLE IF EXISTS " := by decide
  exact front.append _

def creationStem (table : Relation) : String :=
  "CREATE TABLE " ++ table.display ++ "\nWITH (\n  external_location="

def placeOf? (table : Relation) (sql : String) : Option String := do
  let rest ← (creationStem table).toList.isPrefixOf? sql.toList
  let (location, _) ← readLiteral rest
  some location

theorem join_properties (config : TableConfig) (location : String) :
    ∃ more, ",\n  ".intercalate (config.properties location) =
      "external_location=" ++ literal location ++ (",\n  " ++ more) := by
  rw [TableConfig.properties, List.append_assoc, List.append_assoc, List.append_assoc,
    List.cons_append, List.cons_append, List.nil_append, String.intercalate_cons_cons]
  exact ⟨_, String.append_assoc⟩

theorem creation_eq {config : TableConfig} {table : Relation} {sql location text : String}
    (made : config.creation table sql location = .ok text) :
    ∃ more, text = creationStem table ++ (literal location ++ (",\n  " ++ more)) := by
  obtain ⟨_, rfl⟩ := TableConfig.creation_ok_iff.mp made
  obtain ⟨more, joined⟩ := join_properties config location
  have front : "\nWITH (\n  external_location=" = "\nWITH (\n  " ++ "external_location=" := by
    decide
  refine ⟨more ++ "\n)\nAS\n" ++ TableConfig.body sql, ?_⟩
  rw [joined, creationStem, front]
  simp only [String.append_assoc]

theorem opens_creation {config : TableConfig} {table : Relation} {sql location text : String}
    (made : config.creation table sql location = .ok text) : create.Opens text := by
  obtain ⟨more, rfl⟩ := creation_eq made
  have front : create.Opens "CREATE TABLE " := by decide
  exact ((front.append _).append _).append _

theorem placeOf?_creation {config : TableConfig} {table : Relation} {sql location text : String}
    (made : config.creation table sql location = .ok text) :
    placeOf? table text = some location := by
  obtain ⟨more, rfl⟩ := creation_eq made
  have comma : ",\n  ".toList = ',' :: "\n  ".toList := by decide
  have ended : (",\n  ".toList ++ more.toList).head? ≠ some '\x27' := by
    rw [comma]
    intro same
    exact absurd (Option.some.inj same) (by decide)
  rw [placeOf?, String.toList_append, isPrefixOf?_append, String.toList_append,
    String.toList_append]
  simp only [Option.bind_eq_bind, Option.bind_some, readLiteral_literal location ended]

def LooksAtFiles (table : Relation) (sql : String) : Prop :=
  ∃ partitions, sql = filePaths table partitions

def filesStem : String := "SELECT DISTINCT \"$path\" FROM "

theorem filePaths_eq (table : Relation) (partitions : List Partition) :
    filePaths table partitions = filesStem ++ table.display ++
      if partitions.isEmpty then ""
      else " WHERE " ++ " OR ".intercalate (partitions.map fun p => "(" ++ p.predicate ++ ")") :=
  rfl

theorem Verb.Opens.not_looks {verb : Verb} {table : Relation} {sql : String}
    (opens : verb.Opens sql) (other : verb ≠ .select) : ¬ LooksAtFiles table sql := by
  rintro ⟨partitions, rfl⟩
  exact other (opens.unique (opens_filePaths table partitions))

theorem not_looks_of_front {table : Relation} {front sql : String}
    (starts : Text.startsWith front sql = true) (apart : ¬ front.toList <+: filesStem.toList)
    (away : ¬ filesStem.toList <+: front.toList) : ¬ LooksAtFiles table sql := by
  rintro ⟨partitions, rfl⟩
  have looks : Text.startsWith filesStem (filePaths table partitions) = true := by
    rw [filePaths_eq]
    have whole : Text.startsWith filesStem filesStem = true := by decide
    exact startsWith_append (startsWith_append whole _) _
  exact ne_of_fronts starts looks apart away rfl

variable {table other : Relation}

theorem not_looks_of_tableExists : ¬ LooksAtFiles table (tableExists other) := by
  have front : Text.startsWith "SELECT t" "SELECT table_name FROM " = true := by decide
  exact not_looks_of_front (startsWith_append (startsWith_append (startsWith_append front _) _) _)
    (by decide) (by decide)

theorem not_looks_of_columns : ¬ LooksAtFiles table (columns other) := by
  have front : Text.startsWith "SELECT c" "SELECT column_name FROM " = true := by decide
  exact not_looks_of_front (startsWith_append (startsWith_append (startsWith_append
    (startsWith_append front _) _) _) _) (by decide) (by decide)

theorem not_looks_of_existingPartitions : ¬ LooksAtFiles table (existingPartitions other) := by
  have front : Text.startsWith "SELECT *" "SELECT * FROM " = true := by decide
  exact not_looks_of_front (startsWith_append front _) (by decide) (by decide)

theorem distinctPartitions_eq (keys : List String) : distinctPartitions table keys =
    "SELECT DISTINCT " ++ ", ".intercalate keys ++ " FROM " ++ table.display := rfl

theorem display_staging (table : Relation) (suffix : String) :
    (table.staging suffix).display = table.display ++ ("__dbt_tmp_" ++ suffix) := by
  simp only [Relation.display, Relation.staging, String.append_assoc]

theorem getLast_join : ∀ partitions : List Partition, partitions ≠ [] →
    (" OR ".intercalate (partitions.map fun p => "(" ++ p.predicate ++ ")")).toList.getLast? =
      some ')'
  | [], nonempty => absurd rfl nonempty
  | [partition], _ => by
      rw [List.map_cons, List.map_nil, String.intercalate_singleton, String.toList_append]
      exact List.getLast?_concat
  | partition :: next :: rest, _ => by
      have later := getLast_join (next :: rest) (List.cons_ne_nil next rest)
      rw [List.map_cons] at later
      rw [List.map_cons, List.map_cons, String.intercalate_cons_cons, String.toList_append,
        List.getLast?_append, later]
      rfl

theorem getLast_staging {suffix : String} (plain : ')' ∉ suffix.toList) (keys : List String) :
    (distinctPartitions (table.staging suffix) keys).toList.getLast? ≠ some ')' := by
  have tail : "__dbt_tmp_".toList = "__dbt_tmp".toList ++ ['_'] := by decide
  rw [distinctPartitions_eq, display_staging]
  simp only [String.toList_append, List.getLast?_append, tail]
  cases last : suffix.toList.getLast? with
  | none => exact fun same => absurd (Option.some.inj same) (by decide)
  | some c =>
      rintro same
      cases same
      exact plain (List.mem_of_getLast? last)

/-- A look at the partitions of a staging table is not one at the files of its table, whatever the
keys are: it has no condition, and without one it is longer. -/
theorem not_looks_of_distinctPartitions {suffix : String} (plain : ')' ∉ suffix.toList)
    (keys : List String) :
    ¬ LooksAtFiles table (distinctPartitions (table.staging suffix) keys) := by
  rintro ⟨partitions, same⟩
  rw [filePaths_eq] at same
  cases partitions with
  | nil =>
      have lengths := congrArg (List.length ∘ String.toList) same
      have stem : filesStem.toList.length = "SELECT DISTINCT ".toList.length +
        " FROM ".toList.length + 7 := by decide
      have tail : "__dbt_tmp_".toList.length = 10 := by decide
      rw [distinctPartitions_eq, display_staging] at lengths
      simp only [Function.comp_apply, String.toList_append, List.length_append, List.isEmpty_nil,
        if_true, String.toList_empty, List.length_nil, stem, tail] at lengths
      omega
  | cons partition rest =>
      have last : (distinctPartitions (table.staging suffix) keys).toList.getLast? ≠ some ')' :=
        getLast_staging plain keys
      rw [same, if_neg nofun, String.toList_append, List.getLast?_append, String.toList_append,
        List.getLast?_append, getLast_join _ (List.cons_ne_nil partition rest)] at last
      exact last rfl

end AthenaModels.Sql
