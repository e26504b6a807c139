import AthenaModels.Client.Materialization
import AthenaModels.CommandLine.Arguments
import AthenaModels.Json.Writer
import AthenaModels.Profile.Document
import AthenaModels.Profile.Environment
import AthenaModels.Query.Printed
import AthenaModels.Table.Document

namespace AthenaModels.CommandLine

inductive Failure where
  | config (context : Option String) (error : ConfigError)
  | unreadable (file text : String)
  | failed (error : Error)
deriving Repr

def Failure.chain : Failure → List String
  | .config context error => context.toList ++ error.message :: error.causes
  | .unreadable file text => ["failed to read " ++ file, text]
  | .failed error => error.message :: error.causes

/-- The contents of files, or what the system says instead. -/
abbrev Files := String → Except String String

def readFile (files : Files) (file : String) : Except Failure String :=
  (files file).mapError (.unreadable file)

def loadProfile (env : Environment) (files : Files) (invocation : Invocation) :
    Except Failure Profile :=
  match invocation.profile, invocation.profileName with
  | some file, some name => do
      let text ← readFile files file
      (Profile.ofProfilesYaml text name invocation.target).mapError (.config none)
  | some file, none =>
      (Profile.ofFile (files file)).mapError (.config (some ("failed to load profile " ++ file)))
  | none, _ =>
      (Profile.ofActiveEnvironment env).mapError (.config (some "failed to load profile from env"))

def loadTable (files : Files) : Option String → Except Failure TableConfig
  | none => .ok .default
  | some file => do
      let text ← readFile files file
      (TableConfig.ofYaml text).mapError (.config none)

def loadModel (files : Files) (profile : Profile) (options : IncrementalOptions) :
    Except Failure Model := do
  let relation ← (Relation.parse options.relation profile.database).mapError (.config none)
  let sql ← readFile files options.sqlFile
  let table ← loadTable files options.tableConfig
  let key := if options.uniqueKey.isEmpty then none else some (.multiple options.uniqueKey)
  return ⟨relation, sql, table, ⟨options.strategy, key⟩⟩

abbrev Job (α : Type) := ExceptT Failure (Program Warehouse.service) α

def Job.ofWork {α : Type} (work : Work α) : Job α :=
  .mk (work.run.bind fun outcome => .done (outcome.mapError .failed))

def Job.ofExcept {α : Type} : Except Failure α → Job α
  | .ok value => pure value
  | .error failure => throw failure

def perform (env : Environment) (files : Files) (patience : Nat) (invocation : Invocation) :
    Job String := do
  let profile ← Job.ofExcept (loadProfile env files invocation)
  let client : Client := ⟨profile, patience⟩
  match invocation.command with
  | .query sql => return (← Job.ofWork (client.execute sql)).printed ++ "\n"
  | .incremental options =>
      let model ← Job.ofExcept (loadModel files profile options)
      return (← Job.ofWork (client.materialize model)).toJson.pretty 0 ++ "\n"

structure Ending where
  exit : Nat
  output : String
  failure : Option Failure

def versionText : String := "athena-run 0.1.0\n"

def helpText : String :=
  "Usage: athena-run [--profile FILE] [--profile-name NAME] [--target NAME] COMMAND\n\n" ++
    "Commands:\n  query SQL\n  incremental --relation NAME --sql-file FILE " ++
    "[--table-config FILE] [--strategy NAME] [--unique-key COLUMN]...\n"

def run (env : Environment) (files : Files) (patience : Nat) (reading : Reading) :
    Program Warehouse.service Ending :=
  match reading with
  | .version => .done ⟨0, versionText, none⟩
  | .help => .done ⟨0, helpText, none⟩
  | .misuse => .done ⟨2, "", none⟩
  | .run invocation =>
      (perform env files patience invocation).run.bind fun outcome =>
        match outcome with
        | .ok output => .done ⟨0, output, none⟩
        | .error failure => .done ⟨1, "", some failure⟩

end AthenaModels.CommandLine
