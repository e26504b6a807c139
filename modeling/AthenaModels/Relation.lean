import AthenaModels.Error
import AthenaModels.Json.Basic
import AthenaModels.Source.Basic
import AthenaModels.Text.Basic

namespace AthenaModels

/-- A table's name in full: its catalog (`database`), its schema and its own name. -/
structure Relation where
  database : String
  schema : String
  identifier : String
deriving DecidableEq, Repr

namespace Relation

/-- `database.schema.identifier`, or `schema.identifier` in the default database. -/
def parse (name defaultDatabase : String) : Except ConfigError Relation :=
  let parts := Text.split '.' name
  if parts.any Text.isBlankText then
    .error (.invalid "relation" ("empty name part in '" ++ name ++ "'"))
  else
    match parts with
    | [schema, identifier] => .ok ⟨defaultDatabase, schema, identifier⟩
    | [database, schema, identifier] => .ok ⟨database, schema, identifier⟩
    | _ =>
        .error (.invalid "relation"
          ("expected schema.table or database.schema.table, got '" ++ name ++ "'"))

def display (r : Relation) : String :=
  r.database ++ "." ++ r.schema ++ "." ++ r.identifier

/-- The name without the catalog, which is how data definition statements take it. -/
def ddlName (r : Relation) : String :=
  r.schema ++ "." ++ r.identifier

/-- The table that lists the partitions. The dollar sign in its name requires the quotes. -/
def partitionsTable (r : Relation) : String :=
  "\"" ++ r.database ++ "\".\"" ++ r.schema ++ "\".\"" ++ r.identifier ++ "$partitions\""

/-- The table that a run fills before it writes to this one. -/
def staging (r : Relation) (suffix : String) : Relation :=
  { r with identifier := r.identifier ++ "__dbt_tmp_" ++ suffix }

def read? {V : Type} [Source V] (value : V) : Option Relation := do
  let members ← Source.members? value
  members.fits 3
  some {
    database := ← members.required 0 ["database"] Source.text?
    schema := ← members.required 1 ["schema"] Source.text?
    identifier := ← members.required 2 ["identifier"] Source.text? }

def toJson (r : Relation) : Json :=
  .ofMembers [("database", .string r.database), ("schema", .string r.schema),
    ("identifier", .string r.identifier)]

end Relation
end AthenaModels
