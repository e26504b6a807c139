import AthenaModels.Table.Basic
import AthenaModels.Yaml.Cursor

namespace AthenaModels

def TableConfig.ofYaml (text : String) : Except ConfigError TableConfig :=
  match (Yaml.Cursor.ofText? text).bind TableConfig.read? with
  | none => .error (.parse "not a table configuration")
  | some table => do
      table.validate
      return table

end AthenaModels
