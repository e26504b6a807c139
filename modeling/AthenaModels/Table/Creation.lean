import AthenaModels.Profile.Basic
import AthenaModels.Relation
import AthenaModels.Sql.Literal
import AthenaModels.Table.Basic

namespace AthenaModels.TableConfig

/-- The settings' own location, or one below the profile's directory for tables. -/
def resolveLocation (t : TableConfig) (profile : Profile) (uuid : String) : String :=
  t.location.getD (Location.join profile.dataDir ("tables/" ++ uuid))

def literals (texts : List String) : String :=
  ", ".intercalate (texts.map Sql.literal)

def properties (t : TableConfig) (location : String) : List String :=
  ["external_location=" ++ Sql.literal location, "format=" ++ Sql.literal t.format.name] ++
    (if t.isPartitioned then ["partitioned_by=ARRAY[" ++ literals t.partitionedBy ++ "]"]
      else []) ++
    (match t.bucketCount with
      | some count =>
          ["bucketed_by=ARRAY[" ++ literals t.bucketedBy ++ "]",
            "bucket_count=" ++ toString count]
      | none => []) ++
    (t.compression.map ("write_compression=" ++ Sql.literal ·)).toList ++
    (t.delimiter.map ("field_delimiter=" ++ Sql.literal ·)).toList

/-- A query without blanks around it and without semicolons at its end. -/
def body (sql : String) : String :=
  String.ofList ((Text.trim sql).toList.reverse.dropWhile (· == ';')).reverse

def creation (t : TableConfig) (relation : Relation) (sql location : String) :
    Except ConfigError String := do
  t.validate
  return "CREATE TABLE " ++ relation.display ++ "\nWITH (\n  " ++
    ",\n  ".intercalate (t.properties location) ++ "\n)\nAS\n" ++ body sql

end AthenaModels.TableConfig
