import AthenaModels.Materialization
import AthenaModels.Proofs.Profile.Validation
import AthenaModels.Proofs.Store.Location
import AthenaModels.Proofs.Text.Trimming

namespace AthenaModels

namespace Location

open Text

variable {dir uri path : String} {bucket after : List Char}

/-- No bucket follows the scheme. -/
def Nameless (dir : String) : Prop := dir = scheme ∨ ∃ key, dir = scheme ++ "/" ++ key

def stem (place : Location) : String := String.ofList (place.key.toList.rdropWhile (· == '/'))

/-- What the keys below a place start with. -/
def lead (place : Location) : String := if place.stem = "" then "" else place.stem ++ "/"

def below (place : Location) (path : String) : Location :=
  { place with key := place.lead ++ path ++ "/" }

structure Relative (path : String) : Prop where
  opened : ∃ c, path.toList.head? = some c ∧ c ≠ '/'
  closed : path.toList.getLast? ≠ some '/'

theorem Cut.nameless_iff (cut : Cut dir bucket after) : Nameless dir ↔ bucket = [] := by
  constructor
  · rintro (rfl | ⟨key, rfl⟩)
    · have nothing : bucket ++ after = [] := by simpa using cut.whole.symm
      exact (List.append_eq_nil_iff.mp nothing).1
    · have rest : '/' :: key.toList = bucket ++ after := by simpa using cut.whole
      cases bucket with
      | nil => rfl
      | cons c bucket =>
          obtain ⟨rfl, _⟩ := List.cons.inj rest
          exact absurd List.mem_cons_self cut.single
  · rintro rfl
    cases shape : after with
    | nil =>
        refine .inl (String.toList_injective ?_)
        simpa [shape] using cut.whole
    | cons c key =>
        obtain rfl := cut.ends c (by rw [shape]; rfl)
        refine .inr ⟨String.ofList key, String.toList_injective ?_⟩
        simpa [shape] using cut.whole

theorem Relative.toList_join (relative : Relative path) (base : String) :
    (join base path).toList = base.toList.rdropWhile (· == '/') ++ '/' :: path.toList := by
  obtain ⟨c, first, other⟩ := relative.opened
  have kept : path.toList.dropWhile (· == '/') = path.toList := by
    cases shape : path.toList with
    | nil => rfl
    | cons d rest =>
        rw [shape] at first
        obtain rfl := Option.some.inj first
        exact List.dropWhile_cons_of_neg (by simpa using other)
  rw [Location.toList_join, kept]

theorem Ends.rdropWhile (ends : Ends after) (rest : List Char) :
    Ends (after.rdropWhile (· == '/') ++ '/' :: rest) := by
  intro c first
  have before := List.rdropWhile_prefix (· == '/') after
  cases shape : after.rdropWhile (· == '/') with
  | nil =>
      rw [shape] at first
      exact (Option.some.inj first).symm
  | cons d more =>
      obtain ⟨tail, rfl⟩ := shape ▸ before
      rw [shape] at first
      exact ends c first

theorem Cut.ofDirectory_of_nil (cut : Cut dir [] after) (relative : Relative path) :
    ∃ error, ofDirectory (join dir path) = .error error := by
  have whole := relative.toList_join dir
  rw [cut.whole, List.nil_append, rdropWhile_append] at whole
  have refused : ∃ error, parse (join dir path) = .error error := by
    split at whole
    · -- The slashes of the scheme are dropped as well, so that the place is in no store.
      have outside : scheme.toList.isPrefixOf? (join dir path).toList = none := by
        rw [Option.eq_none_iff_forall_ne_some]
        intro tail found
        have same := whole.symm.trans (List.isPrefixOf?_eq_some_iff_append_eq.mp found).symm
        change ['s', '3', ':'] ++ '/' :: path.toList = ['s', '3', ':', '/', '/'] ++ tail at same
        obtain ⟨c, first, other⟩ := relative.opened
        have next : path.toList = '/' :: tail := by simpa using same
        rw [next] at first
        exact other (Option.some.inj first).symm
      rw [parse, rest?, outside]
      exact ⟨_, rfl⟩
    · rw [List.append_assoc] at whole
      exact parse_nameless whole (cut.ends.rdropWhile path.toList)
  obtain ⟨error, refused⟩ := refused
  rw [ofDirectory, refused]
  exact ⟨error, rfl⟩

theorem toList_lead (bucket after : List Char) : (placeAt bucket after).lead.toList =
    if (after.drop 1).all (· == '/') then []
    else (after.drop 1).rdropWhile (· == '/') ++ ['/'] := by
  have empty : (placeAt bucket after).stem = "" ↔ (after.drop 1).all (· == '/') = true := by
    rw [stem, ← String.toList_inj, String.toList_ofList, placeAt, String.toList_ofList,
      List.all_eq_true]
    exact List.rdropWhile_eq_nil_iff
  rw [lead]
  by_cases slashes : (after.drop 1).all (· == '/') = true
  · rw [if_pos (empty.mpr slashes), if_pos slashes]
    rfl
  · rw [if_neg (mt empty.mp slashes), if_neg slashes]
    simp [stem, placeAt]

theorem Cut.rdropWhile_eq (cut : Cut dir bucket after) (named : bucket ≠ []) :
    dir.toList.rdropWhile (· == '/') ++ ['/'] =
      scheme.toList ++ (bucket ++ '/' :: (placeAt bucket after).lead.toList) := by
  have kept : ∀ c ∈ bucket, (c == '/') = false := by
    intro c member
    exact beq_eq_false_iff_ne.mpr fun same => cut.single (same ▸ member)
  obtain ⟨c, member⟩ := List.exists_mem_of_ne_nil bucket named
  have some : (bucket ++ after).all (· == '/') = false :=
    List.all_eq_false.mpr ⟨c, List.mem_append_left _ member, by simp [kept c member]⟩
  rw [cut.whole, rdropWhile_append, some, if_neg Bool.false_ne_true, rdropWhile_append,
    toList_lead]
  cases shape : after with
  | nil => simp [rdropWhile_eq_self kept]
  | cons d key =>
      obtain rfl := cut.ends d (by rw [shape]; rfl)
      cases slashes : key.all (· == '/') with
      | true => simp [slashes, rdropWhile_eq_self kept]
      | false =>
          have split := rdropWhile_append (p := (· == '/')) ['/'] key
          rw [slashes, if_neg Bool.false_ne_true] at split
          rw [← List.singleton_append, split]
          simp [slashes]

theorem Cut.ofDirectory_of_ne_nil (cut : Cut dir bucket after) (named : bucket ≠ [])
    (relative : Relative path) :
    ofDirectory (join dir path) = .ok ((placeAt bucket after).below path) := by
  obtain ⟨c, first, other⟩ := relative.opened
  let key := (placeAt bucket after).lead.toList ++ path.toList
  have splits : Splits (join dir path) bucket key := by
    refine ⟨?_, named, cut.single⟩
    rw [relative.toList_join, List.append_cons, cut.rdropWhile_eq named]
    simp [key]
  have member : c ∈ key := List.mem_append_right _ (List.mem_of_head? first)
  have last : key.getLast? ≠ some '/' := by
    have some : path.toList ≠ [] := by
      rintro none
      rw [none] at first
      cases first
    rw [List.getLast?_append_of_ne_nil _ some]
    exact relative.closed
  have closed : String.ofList (key ++ ['/']) = (placeAt bucket after).lead ++ path ++ "/" :=
    String.toList_injective (by simp [key])
  rw [ofDirectory_splits splits ⟨c, member, other⟩, within, if_neg last, closed]
  rfl

/-- What becomes of a path below a directory: it is a directory of the store just when the directory
names a bucket, and then it lies in that bucket, below the directory. -/
structure Descends (dir path uri : String) : Prop where
  accepted : ∀ directory, ofDirectory uri = .ok directory ↔
    ∃ place, parse dir = .ok place ∧ directory = place.below path
  named : (∃ place, parse dir = .ok place) ↔ ¬Nameless dir

theorem descends_join (inside : startsWith scheme dir = true) (relative : Relative path) :
    Descends dir path (join dir path) := by
  obtain ⟨bucket, after, cut⟩ := exists_cut inside
  by_cases named : bucket = []
  · subst named
    obtain ⟨error, refused⟩ := cut.ofDirectory_of_nil relative
    refine ⟨fun directory => ?_, ?_⟩
    · simp [refused, cut.parse_iff]
    · simp [cut.parse_iff, cut.nameless_iff]
  · refine ⟨fun directory => ?_, ?_⟩
    · rw [cut.ofDirectory_of_ne_nil named relative]
      simp [cut.parse_iff, named, placeAt, eq_comm]
    · simp [cut.parse_iff, cut.nameless_iff, named]

end Location

namespace Profile

open Location

structure IsLevel (name : String) : Prop where
  filled : name ≠ ""
  single : '/' ∉ name.toList

theorem IsLevel.relative {front name : String} (level : IsLevel name)
    (opened : ∃ c, front.toList.head? = some c ∧ c ≠ '/') : Relative (front ++ name) := by
  obtain ⟨c, first, other⟩ := opened
  have filled : name.toList ≠ [] := by simpa using level.filled
  refine ⟨⟨c, ?_, other⟩, ?_⟩
  · rw [String.toList_append, List.head?_append, first]
    rfl
  · rw [String.toList_append, List.getLast?_append_of_ne_nil _ filled]
    exact fun last => level.single (List.mem_of_getLast? last)

/-- The places that a valid profile gives to new tables and to staging tables are below its
directories, if these name a bucket at all. -/
theorem places_below_directories {profile : Profile} (valid : profile.validate = .ok ()) :
    (∀ (table : TableConfig) (uuid : String), table.location = none → IsLevel uuid →
      Descends profile.dataDir ("tables/" ++ uuid) (table.resolveLocation profile uuid)) ∧
    ∀ staging : Relation, IsLevel staging.identifier →
      Descends profile.stagingDir ("tmp/" ++ staging.identifier)
        (Materialization.stagingLocation profile staging) := by
  have sound := validate_iff.mp valid
  refine ⟨?_, ?_⟩
  · intro table uuid free level
    rw [TableConfig.resolveLocation, free]
    exact descends_join sound.dataDir (level.relative ⟨'t', by decide, by decide⟩)
  · intro staging level
    exact descends_join sound.staged (level.relative ⟨'t', by decide, by decide⟩)

def twoBuckets : Profile :=
  { ofRequired "s3://bucket/staging//" "region" "schema" "catalog" with dataDir? := some "s3://data" }

def stagedDays : Relation := ⟨"catalog", "schema", "days__dbt_tmp_0badcafe"⟩

def someUuid : String := "0b0e7a52-2c0f-4b6e-9d1a-5f3c8e7d6a41"

theorem places_below_two_buckets :
    twoBuckets.validate = .ok () ∧ IsLevel someUuid ∧ IsLevel stagedDays.identifier ∧
    ofDirectory (TableConfig.default.resolveLocation twoBuckets someUuid) =
      .ok ⟨"data", "tables/0b0e7a52-2c0f-4b6e-9d1a-5f3c8e7d6a41/"⟩ ∧
    ofDirectory (Materialization.stagingLocation twoBuckets stagedDays) =
      .ok ⟨"bucket", "staging/tmp/days__dbt_tmp_0badcafe/"⟩ := by
  have valid : twoBuckets.validate = .ok () := by decide +kernel
  have uuid : IsLevel someUuid := ⟨by decide, by decide⟩
  have name : IsLevel stagedDays.identifier := ⟨by decide, by decide⟩
  refine ⟨valid, uuid, name, ?_, ?_⟩
  · refine ((places_below_directories valid).1 .default someUuid rfl uuid).accepted _ |>.mpr ?_
    exact ⟨⟨"data", ""⟩, by decide +kernel, by decide +kernel⟩
  · refine ((places_below_directories valid).2 stagedDays name).accepted _ |>.mpr ?_
    exact ⟨⟨"bucket", "staging//"⟩, by decide +kernel, by decide +kernel⟩

/-- A profile whose directory is in no bucket is valid, but its places are refused. -/
theorem places_refused_without_bucket :
    let profile := ofRequired "s3:///staging" "region" "schema" "catalog"
    profile.validate = .ok () ∧ IsLevel someUuid ∧ IsLevel stagedDays.identifier ∧
      ofDirectory (TableConfig.default.resolveLocation profile someUuid) = .error (.storage
        "missing bucket in 's3:///staging/tables/0b0e7a52-2c0f-4b6e-9d1a-5f3c8e7d6a41'") ∧
      ofDirectory (Materialization.stagingLocation profile stagedDays) = .error (.storage
        "missing bucket in 's3:///staging/tmp/days__dbt_tmp_0badcafe'") := by
  exact ⟨by decide +kernel, ⟨by decide, by decide⟩, ⟨by decide, by decide⟩, by decide +kernel,
    by decide +kernel⟩

end Profile
end AthenaModels
