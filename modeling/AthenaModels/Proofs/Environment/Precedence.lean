import AthenaModels.Environment.Basic
import AthenaModels.Proofs.Number.Reading

namespace AthenaModels.Environment

structure Holds (env : Environment) (name value : String) : Prop where
  listed : env.entries.lookup name = some (.text value)
  nonempty : value ≠ ""

/-- A variable that is not set, that is empty or that is no text. -/
def Absent (env : Environment) (name : String) : Prop := ∀ value, ¬ env.Holds name value

section Single

variable {env : Environment} {name value : String}

theorem value?_eq_some_iff : env.value? name = some value ↔ env.Holds name value := by
  rw [Environment.value?, Option.filter_eq_some_iff, text?]
  constructor
  · rintro ⟨text, nonempty⟩
    split at text
    · rename_i listed
      obtain rfl : _ = value := by simpa using text
      exact ⟨listed, by simpa using nonempty⟩
    · contradiction
  · rintro ⟨listed, nonempty⟩
    simp [listed, nonempty]

theorem value?_eq_none_iff : env.value? name = none ↔ env.Absent name := by
  rw [Option.eq_none_iff_forall_ne_some]
  exact forall_congr' fun value => not_congr value?_eq_some_iff

end Single

def namesOf (prefixName key : String) : List String :=
  if prefixName = "" then [key] else [prefixName ++ "_" ++ key, key]

def choices (prefixName : String) (keys : List String) : List String :=
  keys.flatMap (namesOf prefixName)

/-- The value of the first variable that is present. -/
inductive Takes (env : Environment) : List String → Option String → Prop
  | nothing : Takes env [] none
  | here {name value : String} {names : List String} (holds : env.Holds name value) :
      Takes env (name :: names) (some value)
  | later {name : String} {names : List String} {value? : Option String}
      (absent : env.Absent name) (rest : Takes env names value?) : Takes env (name :: names) value?

/-- The number of the first variable that is present; when that one is malformed, no later one is
looked up. -/
inductive TakesNumber (env : Environment) (limit : Nat) (names : List String) : Option Nat → Prop
  | absent (takes : env.Takes names none) : TakesNumber env limit names none
  | malformed {value : String} (takes : env.Takes names (some value))
      (garbled : ∀ n, ¬ Numeral.Spells limit value n) : TakesNumber env limit names none
  | number {value : String} {n : Nat} (takes : env.Takes names (some value))
      (spells : Numeral.Spells limit value n) : TakesNumber env limit names (some n)

variable {env env' : Environment} {prefixName key : String} {names keys : List String}
variable {value? : Option String} {limit : Nat} {number? : Option Nat}

theorem takes_iff : env.Takes names value? ↔ names.findSome? env.value? = value? := by
  constructor
  · intro takes
    induction takes with
    | nothing => rfl
    | here holds => rw [List.findSome?_cons, value?_eq_some_iff.mpr holds]
    | later absent _ found => rw [List.findSome?_cons, value?_eq_none_iff.mpr absent, found]
  · rintro rfl
    induction names with
    | nil => exact .nothing
    | cons name names takes =>
        rw [List.findSome?_cons]
        cases found : env.value? name with
        | some value => exact .here (value?_eq_some_iff.mp found)
        | none => exact .later (value?_eq_none_iff.mp found) takes

theorem profiled?_eq : env.profiled? prefixName key =
    (namesOf prefixName key).findSome? env.value? := by
  rw [profiled?, namesOf]
  split
  · rw [List.findSome?_singleton]
  · rw [List.findSome?_cons, List.findSome?_singleton]
    cases env.value? (prefixName ++ "_" ++ key) <;> rfl

theorem profiledFirst?_eq_iff :
    env.profiledFirst? prefixName keys = value? ↔ env.Takes (choices prefixName keys) value? := by
  rw [takes_iff]
  suffices found : env.profiledFirst? prefixName keys =
      (choices prefixName keys).findSome? env.value? by rw [found]
  rw [profiledFirst?, choices]
  induction keys with
  | nil => rfl
  | cons key keys found =>
      rw [List.findSome?_cons, List.flatMap_cons, List.findSome?_append, profiled?_eq, found]
      cases (namesOf prefixName key).findSome? env.value? <;> rfl

theorem profiled?_eq_iff :
    env.profiled? prefixName key = value? ↔ env.Takes (choices prefixName [key]) value? := by
  rw [← profiledFirst?_eq_iff, profiledFirst?, List.findSome?_singleton]

theorem parsed?_eq_iff : env.parsed? prefixName key (Numeral.below? limit) = number? ↔
    env.TakesNumber limit (choices prefixName [key]) number? := by
  rw [parsed?]
  constructor
  · rintro rfl
    cases found : env.profiled? prefixName key with
    | none => exact .absent (profiled?_eq_iff.mp found)
    | some value =>
        have takes := profiled?_eq_iff.mp found
        simp only [Option.bind_eq_bind, Option.bind_some]
        cases read : Numeral.below? limit value with
        | none => exact .malformed takes (Numeral.below?_eq_none_iff.mp read)
        | some n => exact .number takes (Numeral.below?_iff.mp read)
  · intro takes
    cases takes with
    | absent takes => rw [profiled?_eq_iff.mpr takes]; rfl
    | malformed takes garbled =>
        rw [profiled?_eq_iff.mpr takes]
        exact Numeral.below?_eq_none_iff.mpr garbled
    | number takes spells =>
        rw [profiled?_eq_iff.mpr takes]
        exact Numeral.below?_iff.mpr spells

def AgreesOn (env env' : Environment) (name : String) : Prop :=
  ∀ value, env.Holds name value ↔ env'.Holds name value

theorem agreesOn_set {name other value : String} (apart : name ≠ other) :
    env.AgreesOn (env.set other value) name := by
  have kept : (env.entries.filter (·.1 != other)).lookup name = env.entries.lookup name := by
    induction env.entries with
    | nil => rfl
    | cons entry entries ih =>
        rw [List.filter_cons]
        split
        · rw [List.lookup_cons, List.lookup_cons, ih]
        · rename_i dropped
          obtain rfl : entry.1 = other := by simpa using dropped
          rw [ih, List.lookup_cons, beq_false_of_ne apart]
  have same : (env.set other value).entries.lookup name = env.entries.lookup name := by
    rw [set, List.lookup_cons, beq_false_of_ne apart]
    exact kept
  exact fun text => ⟨fun ⟨listed, nonempty⟩ => ⟨same.trans listed, nonempty⟩,
    fun ⟨listed, nonempty⟩ => ⟨same.symm.trans listed, nonempty⟩⟩

theorem Takes.congr (takes : env.Takes names value?)
    (agrees : ∀ name ∈ names, env.AgreesOn env' name) : env'.Takes names value? := by
  induction takes with
  | nothing => exact .nothing
  | here holds => exact .here ((agrees _ List.mem_cons_self _).mp holds)
  | later absent _ ih =>
      refine .later (fun value holds => ?_) (ih fun name mem => agrees name (.tail _ mem))
      exact absent value ((agrees _ List.mem_cons_self value).mpr holds)

theorem profiled?_congr (agrees : ∀ name ∈ namesOf prefixName key, env.AgreesOn env' name) :
    env.profiled? prefixName key = env'.profiled? prefixName key := by
  have takes : env.Takes (choices prefixName [key]) (env.profiled? prefixName key) :=
    profiled?_eq_iff.mp rfl
  refine (profiled?_eq_iff.mpr (takes.congr fun name mem => agrees name ?_)).symm
  simpa [choices] using mem

end AthenaModels.Environment
