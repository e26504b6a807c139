import AthenaModels.Environment.Basic
import AthenaModels.Text.Basic

namespace AthenaModels.CommandLine

structure IncrementalOptions where
  relation : String
  sqlFile : String
  tableConfig : Option String
  strategy : Option String
  uniqueKey : List String
deriving DecidableEq, Repr

inductive Command where
  | query (sql : String)
  | incremental (options : IncrementalOptions)
deriving DecidableEq, Repr

structure Invocation where
  profile : Option String
  target : Option String
  profileName : Option String
  command : Command
deriving DecidableEq, Repr

def Invocation.files (invocation : Invocation) : List String :=
  invocation.profile.toList ++
    match invocation.command with
    | .query _ => []
    | .incremental options => options.sqlFile :: options.tableConfig.toList

inductive Reading where
  | run (invocation : Invocation)
  | version
  | help
  | misuse
deriving DecidableEq, Repr

/-- A name of an option, as opposed to a value. A lone dash is a value. -/
def isFlag (argument : String) : Bool :=
  match argument.toList with
  | '-' :: _ :: _ => true
  | _ => false

def option? (argument : String) : Option (String × Option String) :=
  match argument.toList with
  | '-' :: '-' :: rest =>
      let name := String.ofList (rest.takeWhile (· != '='))
      match rest.dropWhile (· != '=') with
      | _ :: value => some (name, some (String.ofList value))
      | [] => some (name, none)
  | _ => none

abbrev Options := List (String × String)

/-- The options that a command takes: those that name files, which have to have a name, those with
other values, and those that may be repeated. -/
structure Spec where
  files : List String
  texts : List String
  repeated : List String

namespace Spec

def has (spec : Spec) (name : String) : Bool :=
  spec.files.contains name || spec.texts.contains name || spec.repeated.contains name

def add? (spec : Spec) (options : Options) (name value : String) : Option Options :=
  if spec.files.contains name && value.isEmpty then none
  else if (options.lookup name).isSome && !spec.repeated.contains name then none
  else some (options ++ [(name, value)])

end Spec

/-- The one value of a query; after two dashes it may start with a dash. -/
def readQuery (sql : Option String) (escaped : Bool) : List String → Except Reading String
  | [] => sql.elim (.error .misuse) .ok
  | argument :: rest =>
      if !escaped && argument == "--" then readQuery sql true rest
      else if !escaped && (argument == "-h" || argument == "--help") then .error .help
      else if (!escaped && isFlag argument) || sql.isSome then .error .misuse
      else readQuery (some argument) escaped rest

def incrementalSpec : Spec where
  files := ["sql-file", "table-config"]
  texts := ["relation", "strategy"]
  repeated := ["unique-key"]

def readOptions (options : Options) (pending : Option String) :
    List String → Except Reading Options
  | [] => if pending.isSome then .error .misuse else .ok options
  | argument :: rest =>
      let add (name value : String) : Except Reading Options :=
        match incrementalSpec.add? options name value with
        | some options => readOptions options none rest
        | none => .error .misuse
      match pending with
      | some name => if isFlag argument then .error .misuse else add name argument
      | none =>
          if argument == "-h" || argument == "--help" then .error .help
          else if argument == "--" then (if rest.isEmpty then .ok options else .error .misuse)
          else
            match option? argument with
            | some (name, value) =>
                if incrementalSpec.has name then
                  match value with
                  | some value => add name value
                  | none => readOptions options (some name) rest
                else .error .misuse
            | none => .error .misuse

def readIncremental (arguments : List String) : Except Reading IncrementalOptions := do
  let options ← readOptions [] none arguments
  match options.lookup "relation", options.lookup "sql-file" with
  | some relation, some sqlFile =>
      return {
        relation := relation
        sqlFile := sqlFile
        tableConfig := options.lookup "table-config"
        strategy := options.lookup "strategy"
        uniqueKey := (options.filter (·.1 == "unique-key")).map Prod.snd }
  | _, _ => .error .misuse

def readCommand (name : String) (arguments : List String) : Except Reading Command :=
  if name == "query" then (readQuery none false arguments).map .query
  else if name == "incremental" then (readIncremental arguments).map .incremental
  else if name == "help" then .error .help
  else .error .misuse

def spec : Spec where
  files := ["profile"]
  texts := ["target", "profile-name"]
  repeated := []

def fileVariable : String := "ATHENA_PROFILE_FILE"

/-- The file of the profile may be named by the environment; an empty name is refused. -/
def profileFile (env : Environment) (options : Options) : Except Reading (Option String) :=
  match options.lookup "profile", env.text? fileVariable with
  | some file, _ => .ok (some file)
  | none, some "" => .error .misuse
  | none, file => .ok file

def invocation (env : Environment) (options : Options) (command : Command) :
    Except Reading Invocation := do
  let profile ← profileFile env options
  let target := options.lookup "target"
  let profileName := options.lookup "profile-name"
  if (target.isSome && profileName.isNone) || (profileName.isSome && profile.isNone) then
    .error .misuse
  else return ⟨profile, target, profileName, command⟩

def readAll (env : Environment) (options : Options) (pending : Option String) :
    List String → Except Reading Invocation
  | [] => .error .misuse
  | argument :: rest =>
      let add (name value : String) : Except Reading Invocation :=
        match spec.add? options name value with
        | some options => readAll env options none rest
        | none => .error .misuse
      match pending with
      | some name => if isFlag argument then .error .misuse else add name argument
      | none =>
          if argument == "--version" || argument == "-V" then .error .version
          else if argument == "--help" || argument == "-h" then .error .help
          else
            match option? argument with
            | some (name, value) =>
                if spec.has name then
                  match value with
                  | some value => add name value
                  | none => readAll env options (some name) rest
                else .error .misuse
            | none =>
                if isFlag argument then .error .misuse
                else do
                  let command ← readCommand argument rest
                  invocation env options command

def read (env : Environment) (arguments : List String) : Reading :=
  match readAll env [] none arguments with
  | .ok invocation => .run invocation
  | .error reading => reading

end AthenaModels.CommandLine
