import AthenaModels.Environment.Basic
import AthenaModels.Profile.Basic

namespace AthenaModels.Profile

def needed (key : String) : Option String → Except ConfigError String
  | some value => .ok value
  | none => .error (.missing key)

/-- The profile of the variables under a prefix, each with its bare name as a second choice. -/
def ofEnvironment (env : Environment) (prefixName : String) : Except ConfigError Profile := do
  let stagingDir ← needed "s3_staging_dir" (env.profiled? prefixName "ATHENA_S3_STAGING_DIR")
  let region ←
    needed "region_name" (env.profiledFirst? prefixName ["ATHENA_REGION_NAME", "AWS_REGION"])
  let schema ← needed "schema" (env.profiled? prefixName "ATHENA_SCHEMA")
  let database ←
    needed "database" (env.profiledFirst? prefixName ["ATHENA_DATABASE", "ATHENA_CATALOG"])
  let seconds? (key : String) := env.parsed? prefixName key (Numeral.below? (Nat.pow 2 64))
  let retries? := env.parsed? prefixName "ATHENA_NUM_RETRIES" (Numeral.below? (Nat.pow 2 32))
  validated {
    stagingDir := stagingDir
    region := region
    schema := schema
    database := database
    pollInterval := (seconds? "ATHENA_POLL_INTERVAL").getD defaultPollInterval
    credentials := env.profiled? prefixName "ATHENA_AWS_PROFILE_NAME"
    workGroup := env.profiled? prefixName "ATHENA_WORK_GROUP"
    retries := retries?.getD defaultRetries
    timeout := seconds? "ATHENA_QUERY_TIMEOUT"
    dataDir? := env.profiled? prefixName "ATHENA_S3_DATA_DIR" }

def ofActiveEnvironment (env : Environment) : Except ConfigError Profile :=
  ofEnvironment env env.activeProfile

end AthenaModels.Profile
