import AthenaModels.Profile.Basic

namespace AthenaModels.Profile

variable {p : Profile} {key : String}

structure Sound (p : Profile) : Prop where
  present : ∀ text ∈ [p.stagingDir, p.region, p.schema, p.database], Text.isBlankText text = false
  staged : Text.startsWith Location.scheme p.stagingDir = true
  stored : ∀ dir, p.dataDir? = some dir → Text.startsWith Location.scheme dir = true
  paced : p.pollInterval ≠ 0
  timed : p.timeout ≠ some 0

theorem checkPresent_iff {entries : List (String × String)} :
    checkPresent entries = .ok () ↔ ∀ entry ∈ entries, Text.isBlankText entry.2 = false := by
  induction entries with
  | nil => simp [checkPresent]
  | cons entry entries ih =>
      rw [checkPresent]
      cases blank : Text.isBlankText entry.2 <;> simp [blank, ih]

theorem checkUri_iff {uri : String} :
    checkUri key uri = .ok () ↔ Text.startsWith Location.scheme uri = true := by
  rw [checkUri]
  split <;> simp_all

theorem checkSeconds_iff {seconds : Nat} : checkSeconds key seconds = .ok () ↔ seconds ≠ 0 := by
  rw [checkSeconds]
  split <;> simp_all

theorem checkOptional_iff {α : Type} {check : α → Except ConfigError Unit} {value : Option α} :
    checkOptional check value = .ok () ↔ ∀ given, value = some given → check given = .ok () := by
  cases value <;> simp [checkOptional]

theorem validate_iff : p.validate = .ok () ↔ p.Sound := by
  have all : p.validate = .ok () ↔
      checkPresent [("s3_staging_dir", p.stagingDir), ("region_name", p.region),
        ("schema", p.schema), ("database", p.database)] = .ok () ∧
      checkUri "s3_staging_dir" p.stagingDir = .ok () ∧
      checkOptional (checkUri "s3_data_dir") p.dataDir? = .ok () ∧
      checkSeconds "poll_interval" p.pollInterval = .ok () ∧
      checkOptional (checkSeconds "query_timeout") p.timeout = .ok () := by
    rw [validate]
    cases checkPresent _ <;> cases checkUri _ _ <;> cases checkOptional _ p.dataDir? <;>
      cases checkSeconds _ _ <;> cases checkOptional _ p.timeout <;> simp [bind, Except.bind]
  rw [all, checkPresent_iff, checkUri_iff, checkOptional_iff, checkSeconds_iff, checkOptional_iff]
  constructor
  · rintro ⟨present, staged, stored, paced, timed⟩
    refine ⟨by simpa using present, staged, fun dir given => checkUri_iff.mp (stored dir given),
      paced, ?_⟩
    intro none
    exact checkSeconds_iff.mp (timed 0 none) rfl
  · rintro ⟨present, staged, stored, paced, timed⟩
    refine ⟨by simpa using present, staged, fun dir given => checkUri_iff.mpr (stored dir given),
      paced, ?_⟩
    rintro seconds given
    refine checkSeconds_iff.mpr ?_
    rintro rfl
    exact timed given

theorem Sound.dataDir (sound : p.Sound) : Text.startsWith Location.scheme p.dataDir = true := by
  rw [Profile.dataDir]
  cases given : p.dataDir? with
  | none => exact sound.staged
  | some dir => exact sound.stored dir given

end AthenaModels.Profile
