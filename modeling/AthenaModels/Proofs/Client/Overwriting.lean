import AthenaModels.Proofs.Client.Origin
import AthenaModels.Proofs.Materialization.Schedule

namespace AthenaModels.Client

open Materialization Program

/-- A table with rows for two days, one of which is overwritten. -/
def dayTable : Relation := ⟨"catalog", "schema", "days"⟩

def dayModel : Model where
  relation := dayTable
  sql := "SELECT * FROM source"
  table := { TableConfig.default with partitionedBy := ["day"] }
  incremental := .ofStrategy .insertOverwrite

def dayPage (column : String) (values : List String) : Page :=
  ⟨[⟨column, "varchar"⟩], [some column] :: values.map fun value => [some value], none, none⟩

def dayAnswer (sql : String) : Page :=
  if sql = Sql.tableExists dayTable then dayPage "table_name" ["days"]
  else if sql = Sql.columns dayTable then dayPage "column_name" ["row", "day"]
  else if sql = Sql.distinctPartitions (dayTable.staging "suffix") ["day"] then
    dayPage "day" ["tuesday", "wednesday"]
  else if sql = Sql.existingPartitions dayTable then dayPage "day" ["monday", "tuesday"]
  else dayPage "$path" ["s3://b/days/tuesday"]

def dayAnswers : (r : Warehouse.Request) → String → Warehouse.Reply r × String
  | .start query, _ => (.ok "id", query.sql)
  | .status _, sql => (.ok ⟨.succeeded, none, 0, 0, none⟩, sql)
  | .page _ _, sql => (.ok (dayAnswer sql), sql)
  | .stop _, sql => (.ok (), sql)
  | .deleteObjects uris, sql => (.ok uris.length, sql)
  | .deletePrefix _, sql => (.ok 0, sql)
  | .sleep _, sql => ((), sql)
  | .clock, sql => ((0 : Nat), sql)
  | .now, sql => ((⟨0, 0⟩ : Timestamp), sql)
  | .freshSuffix, sql => ("suffix", sql)
  | .freshUuid, sql => ("uuid", sql)

end AthenaModels.Client
