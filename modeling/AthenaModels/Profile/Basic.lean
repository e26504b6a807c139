import AthenaModels.Error
import AthenaModels.Json.Basic
import AthenaModels.Source.Basic
import AthenaModels.Store.Location
import AthenaModels.Text.Case

namespace AthenaModels

structure Profile where
  stagingDir : String
  region : String
  schema : String
  /-- The data catalog. -/
  database : String
  /-- Seconds between two looks at a running query. -/
  pollInterval : Nat
  credentials : Option String
  workGroup : Option String
  retries : Nat
  /-- Seconds after which a running query is stopped. -/
  timeout : Option Nat
  dataDir? : Option String
deriving DecidableEq, Repr

namespace Profile

def defaultPollInterval : Nat := 1

def defaultRetries : Nat := 5

def ofRequired (stagingDir region schema database : String) : Profile where
  stagingDir := stagingDir
  region := region
  schema := schema
  database := database
  pollInterval := defaultPollInterval
  credentials := none
  workGroup := none
  retries := defaultRetries
  timeout := none
  dataDir? := none

def dataDir (p : Profile) : String := p.dataDir?.getD p.stagingDir

def checkPresent : List (String × String) → Except ConfigError Unit
  | [] => .ok ()
  | (key, value) :: rest =>
      if Text.isBlankText value then .error (.invalid key "must not be empty")
      else checkPresent rest

def checkUri (key uri : String) : Except ConfigError Unit :=
  if Text.startsWith Location.scheme uri then .ok ()
  else .error (.invalid key ("expected an s3:// URI, got '" ++ uri ++ "'"))

def checkSeconds (key : String) (seconds : Nat) : Except ConfigError Unit :=
  if seconds = 0 then .error (.invalid key "must be at least 1 second") else .ok ()

def checkOptional {α : Type} (check : α → Except ConfigError Unit) :
    Option α → Except ConfigError Unit
  | none => .ok ()
  | some value => check value

def validate (p : Profile) : Except ConfigError Unit := do
  checkPresent [("s3_staging_dir", p.stagingDir), ("region_name", p.region),
    ("schema", p.schema), ("database", p.database)]
  checkUri "s3_staging_dir" p.stagingDir
  checkOptional (checkUri "s3_data_dir") p.dataDir?
  checkSeconds "poll_interval" p.pollInterval
  checkOptional (checkSeconds "query_timeout") p.timeout

def validated (p : Profile) : Except ConfigError Profile := do
  p.validate
  return p

def mixedCase (p : Profile) : List (String × String) :=
  [("schema", p.schema), ("database", p.database)].filter fun name =>
    name.2.toList.any Text.isUppercase

def read? {V : Type} [Source V] (value : V) : Option Profile := do
  let text := Source.text? (V := V)
  let optionalText := Source.option? text
  let members ← Source.members? value
  members.fits 10
  some {
    stagingDir := ← members.required 0 ["s3_staging_dir"] text
    region := ← members.required 1 ["region_name"] text
    schema := ← members.required 2 ["schema"] text
    database := ← members.required 3 ["database", "catalog"] text
    pollInterval :=
      ← members.defaulted 4 ["poll_interval"] (Source.below? (Nat.pow 2 64)) defaultPollInterval
    credentials := ← members.defaulted 5 ["aws_profile_name"] optionalText none
    workGroup := ← members.defaulted 6 ["work_group"] optionalText none
    retries := ← members.defaulted 7 ["num_retries"] (Source.below? (Nat.pow 2 32)) defaultRetries
    timeout :=
      ← members.defaulted 8 ["query_timeout"] (Source.option? (Source.below? (Nat.pow 2 64))) none
    dataDir? := ← members.defaulted 9 ["s3_data_dir"] optionalText none }

def toJson (p : Profile) : Json :=
  .ofMembers [("s3_staging_dir", .string p.stagingDir), ("region_name", .string p.region),
    ("schema", .string p.schema), ("database", .string p.database),
    ("poll_interval", .natural p.pollInterval),
    ("aws_profile_name", .ofOption .string p.credentials),
    ("work_group", .ofOption .string p.workGroup), ("num_retries", .natural p.retries),
    ("query_timeout", .ofOption .natural p.timeout),
    ("s3_data_dir", .ofOption .string p.dataDir?)]

end Profile
end AthenaModels
