import AthenaModels.Partition.Basic
import AthenaModels.Relation

namespace AthenaModels.Sql

def tableCondition (r : Relation) : String :=
  "table_schema = " ++ literal r.schema ++ " AND table_name = " ++ literal r.identifier

def tableExists (r : Relation) : String :=
  "SELECT table_name FROM " ++ r.database ++ ".information_schema.tables WHERE " ++
    tableCondition r

def columns (r : Relation) : String :=
  "SELECT column_name FROM " ++ r.database ++ ".information_schema.columns WHERE " ++
    tableCondition r ++ " ORDER BY ordinal_position"

def distinctPartitions (r : Relation) (keys : List String) : String :=
  "SELECT DISTINCT " ++ ", ".intercalate keys ++ " FROM " ++ r.display

def existingPartitions (r : Relation) : String :=
  "SELECT * FROM " ++ r.partitionsTable

/-- The files of the partitions, or those of the whole table when none are given. -/
def filePaths (r : Relation) (partitions : List Partition) : String :=
  "SELECT DISTINCT \"$path\" FROM " ++ r.display ++
    if partitions.isEmpty then ""
    else " WHERE " ++ " OR ".intercalate (partitions.map fun p => "(" ++ p.predicate ++ ")")

def dropPartitions (r : Relation) (partitions : List Partition) : String :=
  "ALTER TABLE " ++ r.ddlName ++ " DROP IF EXISTS " ++
    ", ".intercalate (partitions.map fun p => "PARTITION " ++ p.spec)

def insert (target source : Relation) (columns : List String) : String :=
  let list := ", ".intercalate columns
  "INSERT INTO " ++ target.display ++ " (" ++ list ++ ")\nSELECT " ++ list ++ " FROM " ++
    source.display

def dropTable (r : Relation) : String :=
  "DROP TABLE IF EXISTS " ++ r.ddlName

end AthenaModels.Sql
