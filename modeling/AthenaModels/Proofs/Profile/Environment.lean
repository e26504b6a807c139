import AthenaModels.Profile.Environment
import AthenaModels.Proofs.Environment.Precedence

namespace AthenaModels.Profile

open Environment

/-- The keys that no profile goes without, in the order in which they are looked for, each with
the variables that it is read from. -/
def requiredKeys : List (String × List String) :=
  [("s3_staging_dir", ["ATHENA_S3_STAGING_DIR"]),
    ("region_name", ["ATHENA_REGION_NAME", "AWS_REGION"]),
    ("schema", ["ATHENA_SCHEMA"]),
    ("database", ["ATHENA_DATABASE", "ATHENA_CATALOG"])]

def variableKeys : List String :=
  requiredKeys.flatMap (·.2) ++
    ["ATHENA_POLL_INTERVAL", "ATHENA_AWS_PROFILE_NAME", "ATHENA_WORK_GROUP", "ATHENA_NUM_RETRIES",
      "ATHENA_QUERY_TIMEOUT", "ATHENA_S3_DATA_DIR"]

inductive Lacks (env : Environment) (prefixName : String) :
    List (String × List String) → String → Prop
  | here {key : String} {keys : List String} {rest : List (String × List String)}
      (takes : env.Takes (choices prefixName keys) none) :
      Lacks env prefixName ((key, keys) :: rest) key
  | later {key text lacked : String} {keys : List String} {rest : List (String × List String)}
      (takes : env.Takes (choices prefixName keys) (some text))
      (lacks : Lacks env prefixName rest lacked) : Lacks env prefixName ((key, keys) :: rest) lacked

structure Chosen (env : Environment) (prefixName : String) (p : Profile) : Prop where
  stagingDir : env.Takes (choices prefixName ["ATHENA_S3_STAGING_DIR"]) (some p.stagingDir)
  region : env.Takes (choices prefixName ["ATHENA_REGION_NAME", "AWS_REGION"]) (some p.region)
  schema : env.Takes (choices prefixName ["ATHENA_SCHEMA"]) (some p.schema)
  database : env.Takes (choices prefixName ["ATHENA_DATABASE", "ATHENA_CATALOG"]) (some p.database)
  pollInterval : ∃ seconds?, p.pollInterval = seconds?.getD 1 ∧
    env.TakesNumber (Nat.pow 2 64) (choices prefixName ["ATHENA_POLL_INTERVAL"]) seconds?
  credentials : env.Takes (choices prefixName ["ATHENA_AWS_PROFILE_NAME"]) p.credentials
  workGroup : env.Takes (choices prefixName ["ATHENA_WORK_GROUP"]) p.workGroup
  retries : ∃ retries?, p.retries = retries?.getD 5 ∧
    env.TakesNumber (Nat.pow 2 32) (choices prefixName ["ATHENA_NUM_RETRIES"]) retries?
  timeout : env.TakesNumber (Nat.pow 2 64) (choices prefixName ["ATHENA_QUERY_TIMEOUT"]) p.timeout
  dataDir : env.Takes (choices prefixName ["ATHENA_S3_DATA_DIR"]) p.dataDir?

inductive Loads (env : Environment) (prefixName : String) : Except ConfigError Profile → Prop
  | missing {key : String} (lacks : Lacks env prefixName requiredKeys key) :
      Loads env prefixName (.error (.missing key))
  | refused {p : Profile} {error : ConfigError} (chosen : Chosen env prefixName p)
      (refused : p.validate = .error error) : Loads env prefixName (.error error)
  | loaded {p : Profile} (chosen : Chosen env prefixName p) (valid : p.validate = .ok ()) :
      Loads env prefixName (.ok p)

variable {env env' : Environment} {prefixName : String} {p : Profile}

theorem Chosen.ofEnvironment (chosen : Chosen env prefixName p) :
    ofEnvironment env prefixName = p.validated := by
  obtain ⟨seconds?, pollInterval, paced⟩ := chosen.pollInterval
  obtain ⟨retries?, retries, repeated⟩ := chosen.retries
  rw [Profile.ofEnvironment, profiled?_eq_iff.mpr chosen.stagingDir,
    profiledFirst?_eq_iff.mpr chosen.region, profiled?_eq_iff.mpr chosen.schema,
    profiledFirst?_eq_iff.mpr chosen.database]
  simp only [needed, bind, Except.bind, parsed?_eq_iff.mpr paced, parsed?_eq_iff.mpr repeated,
    parsed?_eq_iff.mpr chosen.timeout, profiled?_eq_iff.mpr chosen.credentials,
    profiled?_eq_iff.mpr chosen.workGroup, profiled?_eq_iff.mpr chosen.dataDir]
  rw [defaultPollInterval, defaultRetries, ← pollInterval, ← retries]

theorem Lacks.ofEnvironment {key : String} (lacks : Lacks env prefixName requiredKeys key) :
    ofEnvironment env prefixName = .error (.missing key) := by
  rw [requiredKeys] at lacks
  obtain unstaged | ⟨staged, lacks⟩ := lacks
  · rw [Profile.ofEnvironment, profiled?_eq_iff.mpr unstaged]
    rfl
  rw [Profile.ofEnvironment, profiled?_eq_iff.mpr staged]
  obtain unplaced | ⟨placed, lacks⟩ := lacks
  · rw [profiledFirst?_eq_iff.mpr unplaced]
    rfl
  rw [profiledFirst?_eq_iff.mpr placed]
  obtain unnamed | ⟨named, lacks⟩ := lacks
  · rw [profiled?_eq_iff.mpr unnamed]
    rfl
  rw [profiled?_eq_iff.mpr named]
  obtain uncataloged | ⟨-, lacks⟩ := lacks
  · rw [profiledFirst?_eq_iff.mpr uncataloged]
    rfl
  · nomatch lacks

theorem lacks_or_takes (env : Environment) (prefixName : String)
    (required : List (String × List String)) :
    (∃ key, Lacks env prefixName required key) ∨
      ∀ entry ∈ required, ∃ text, env.Takes (choices prefixName entry.2) (some text) := by
  induction required with
  | nil => exact .inr (by simp)
  | cons entry required ih =>
      cases found : env.profiledFirst? prefixName entry.2 with
      | none => exact .inl ⟨entry.1, .here (profiledFirst?_eq_iff.mp found)⟩
      | some text =>
          have takes := profiledFirst?_eq_iff.mp found
          refine ih.imp (fun ⟨key, lacks⟩ => ⟨key, .later takes lacks⟩) fun all => ?_
          exact List.forall_mem_cons.mpr ⟨⟨text, takes⟩, all⟩

theorem exists_chosen
    (all : ∀ entry ∈ requiredKeys, ∃ text, env.Takes (choices prefixName entry.2) (some text)) :
    ∃ p, Chosen env prefixName p := by
  simp only [requiredKeys, List.forall_mem_cons] at all
  obtain ⟨⟨stagingDir, staged⟩, ⟨region, placed⟩, ⟨schema, named⟩, ⟨database, cataloged⟩, -⟩ := all
  exact ⟨{
      stagingDir, region, schema, database
      pollInterval := _
      credentials := _
      workGroup := _
      retries := _
      timeout := _
      dataDir? := _ },
    { stagingDir := staged
      region := placed
      schema := named
      database := cataloged
      pollInterval := ⟨_, rfl, parsed?_eq_iff.mp rfl⟩
      credentials := profiled?_eq_iff.mp rfl
      workGroup := profiled?_eq_iff.mp rfl
      retries := ⟨_, rfl, parsed?_eq_iff.mp rfl⟩
      timeout := parsed?_eq_iff.mp rfl
      dataDir := profiled?_eq_iff.mp rfl }⟩

theorem ofEnvironment_eq_iff {outcome : Except ConfigError Profile} :
    ofEnvironment env prefixName = outcome ↔ Loads env prefixName outcome := by
  constructor
  · rintro rfl
    obtain ⟨key, lacks⟩ | all := lacks_or_takes env prefixName requiredKeys
    · rw [lacks.ofEnvironment]
      exact .missing lacks
    · obtain ⟨p, chosen⟩ := exists_chosen all
      rw [chosen.ofEnvironment, validated]
      cases valid : p.validate with
      | error error => exact .refused chosen valid
      | ok => exact .loaded chosen valid
  · intro loads
    cases loads with
    | missing lacks => exact lacks.ofEnvironment
    | refused chosen refused => rw [chosen.ofEnvironment, validated, refused]; rfl
    | loaded chosen valid => rw [chosen.ofEnvironment, validated, valid]; rfl

theorem ofEnvironment_congr
    (agrees : ∀ key ∈ variableKeys, ∀ name ∈ namesOf prefixName key, env.AgreesOn env' name) :
    ofEnvironment env prefixName = ofEnvironment env' prefixName := by
  have same : ∀ key ∈ variableKeys, env.profiled? prefixName key = env'.profiled? prefixName key :=
    fun key mem => profiled?_congr (agrees key mem)
  simp only [variableKeys, requiredKeys, List.flatMap_cons, List.flatMap_nil, List.cons_append,
    List.nil_append, List.forall_mem_cons] at same
  simp only [ofEnvironment, profiledFirst?, List.findSome?_cons, List.findSome?_nil, parsed?, same]

def Foreign (prefixName name : String) : Prop :=
  ∃ other, other ≠ "" ∧ other ≠ prefixName ∧ ∃ key ∈ variableKeys, name = other ++ "_" ++ key

theorem eq_of_suffix : ∀ key ∈ variableKeys, ∀ key' ∈ variableKeys,
    key.toList <:+ key'.toList → key = key' := by
  decide

theorem Foreign.not_mem {name key : String} (foreign : Foreign prefixName name)
    (mem : key ∈ variableKeys) : name ∉ namesOf prefixName key := by
  obtain ⟨other, nonempty, apart, key', mem', rfl⟩ := foreign
  have ends' : key'.toList <:+ (other ++ "_" ++ key').toList := by
    rw [String.toList_append]
    exact List.suffix_append _ _
  -- Two endings of one name, so one of the keys ends in the other.
  have same (ends : key.toList <:+ (other ++ "_" ++ key').toList) : key' = key :=
    (List.suffix_or_suffix_of_suffix ends ends').elim
      (fun suffix => (eq_of_suffix _ mem _ mem' suffix).symm) (eq_of_suffix _ mem' _ mem)
  intro named
  have bare : other ++ "_" ++ key' ≠ key := by
    intro eq
    obtain rfl := same (eq ▸ List.suffix_rfl)
    have length := congrArg String.length eq
    simp at length
  rw [namesOf] at named
  split at named
  · exact bare (List.mem_singleton.mp named)
  · obtain eq | eq : _ ∨ _ := by simpa using named
    · obtain rfl := same (by
        rw [eq, String.toList_append]
        exact List.suffix_append _ _)
      exact apart (by simpa using eq)
    · exact bare eq

/-- A profile is read from the first variables that are there, in the order of their names, and from
no others. -/
theorem environment_precedence :
    (∀ env prefixName outcome, ofEnvironment env prefixName = outcome ↔
      Loads env prefixName outcome) ∧
    (∀ env env' prefixName,
      (∀ key ∈ variableKeys, ∀ name ∈ namesOf prefixName key, env.AgreesOn env' name) →
        ofEnvironment env prefixName = ofEnvironment env' prefixName) ∧
    ∀ env env' prefixName, (∀ name, env.AgreesOn env' name ∨ Foreign prefixName name) →
      ofEnvironment env prefixName = ofEnvironment env' prefixName := by
  refine ⟨fun _ _ _ => ofEnvironment_eq_iff, fun _ _ _ => ofEnvironment_congr, ?_⟩
  intro env env' prefixName differs
  refine ofEnvironment_congr fun key mem name named => ?_
  exact (differs name).resolve_right fun foreign => foreign.not_mem mem named

def sharedVariables : Environment where
  entries := [("PROD_ATHENA_S3_STAGING_DIR", .text "s3://prod/"),
    ("ATHENA_S3_STAGING_DIR", .text "s3://shared/"), ("PROD_ATHENA_REGION_NAME", .bytes),
    ("PROD_AWS_REGION", .text "eu-west-1"), ("AWS_REGION", .text "us-east-1"),
    ("PROD_ATHENA_SCHEMA", .text ""), ("ATHENA_SCHEMA", .text "core"),
    ("PROD_ATHENA_CATALOG", .text "lake"), ("PROD_ATHENA_NUM_RETRIES", .text "many"),
    ("ATHENA_NUM_RETRIES", .text "7"), ("PROD_ATHENA_QUERY_TIMEOUT", .text "+060"),
    ("TEST_ATHENA_S3_DATA_DIR", .text "s3://test/")]

theorem environment_precedence_two_profiles :
    Loads sharedVariables "PROD" (.ok { ofRequired "s3://prod/" "eu-west-1" "core" "lake" with
      timeout := some 60 }) ∧
    Loads sharedVariables "TEST" (.error (.missing "database")) ∧
    ofEnvironment sharedVariables "PROD" =
      ofEnvironment (sharedVariables.set "HOME" "/root") "PROD" ∧
    ofEnvironment sharedVariables "PROD" =
      ofEnvironment (sharedVariables.set "TEST_ATHENA_SCHEMA" "scratch") "PROD" := by
  refine ⟨(environment_precedence.1 _ _ _).mp ?_, (environment_precedence.1 _ _ _).mp ?_,
    environment_precedence.2.1 _ _ _ ?_, environment_precedence.2.2 _ _ _ ?_⟩
  · decide +kernel
  · decide +kernel
  · have apart : ∀ key ∈ variableKeys, ∀ name ∈ namesOf "PROD" key, name ≠ "HOME" := by decide
    exact fun key mem name named => agreesOn_set (apart key mem name named)
  · intro name
    by_cases other : name = "TEST_ATHENA_SCHEMA"
    · exact .inr ⟨"TEST", by decide, by decide, "ATHENA_SCHEMA", by decide, other⟩
    · exact .inl (agreesOn_set other)

end AthenaModels.Profile
