import AthenaModels.Store.Location
import Mathlib.Data.List.Basic
import Mathlib.Data.List.DropRight
import Mathlib.Data.List.TakeWhile

namespace AthenaModels.Location

variable {uri : String} {location directory : Location} {error : Error} {bucket after : List Char}

structure Splits (uri : String) (bucket key : List Char) : Prop where
  whole : uri.toList = scheme.toList ++ (bucket ++ '/' :: key)
  named : bucket ≠ []
  single : '/' ∉ bucket

structure Addresses (uri : String) (object : Location) : Prop where
  splits : Splits uri object.bucket.toList object.key.toList
  keyed : object.key.toList ≠ []

/-- The directory at a key, whose objects have keys that start with it and a slash. -/
def within (bucket key : List Char) : Location where
  bucket := String.ofList bucket
  key := String.ofList (if key.getLast? = some '/' then key else key ++ ['/'])

def Ends (after : List Char) : Prop := ∀ c, after.head? = some c → c = '/'

def placeAt (bucket after : List Char) : Location :=
  ⟨String.ofList bucket, String.ofList (after.drop 1)⟩

/-- A place in the store, cut where its bucket ends. -/
structure Cut (uri : String) (bucket after : List Char) : Prop where
  whole : uri.toList = scheme.toList ++ (bucket ++ after)
  single : '/' ∉ bucket
  ends : Ends after

theorem toList_join (base rest : String) : (join base rest).toList =
    base.toList.rdropWhile (· == '/') ++ '/' :: rest.toList.dropWhile (· == '/') := by
  simp [join, List.rdropWhile]

theorem exists_cut (inside : Text.startsWith scheme uri = true) :
    ∃ bucket after, Cut uri bucket after := by
  obtain ⟨tail, whole⟩ := Text.startsWith_iff.mp inside
  refine ⟨tail.takeWhile (· != '/'), tail.dropWhile (· != '/'), ?_, ?_, ?_⟩
  · rw [← whole, List.takeWhile_append_dropWhile]
  · intro member
    simpa using List.mem_takeWhile_imp member
  · intro c first
    have stopped := List.head?_dropWhile_not (· != '/') tail
    rw [first] at stopped
    simpa using stopped

theorem parse_named (whole : uri.toList = scheme.toList ++ (bucket ++ after)) (named : bucket ≠ [])
    (single : '/' ∉ bucket) (ends : Ends after) :
    parse uri = .ok (placeAt bucket after) := by
  have inside : ∀ c ∈ bucket, (c != '/') = true := by
    intro c member
    exact bne_iff_ne.mpr fun same => single (same ▸ member)
  have taken : (bucket ++ after).takeWhile (· != '/') = bucket := by
    rw [List.takeWhile_append_of_pos inside]
    cases after with
    | nil => exact List.append_nil bucket
    | cons c key =>
        rw [List.takeWhile_cons_of_neg (by simp [ends c rfl]), List.append_nil]
  rw [parse, Text.rest?, List.isPrefixOf?_eq_some_iff_append_eq.mpr whole.symm]
  dsimp only
  rw [taken, List.isEmpty_eq_false_iff.mpr named]
  simp [List.drop_append, placeAt]

theorem parse_nameless (whole : uri.toList = scheme.toList ++ after) (ends : Ends after) :
    ∃ error, parse uri = .error error := by
  have taken : after.takeWhile (· != '/') = [] := by
    cases after with
    | nil => rfl
    | cons c key => exact List.takeWhile_cons_of_neg (by simp [ends c rfl])
  rw [parse, Text.rest?, List.isPrefixOf?_eq_some_iff_append_eq.mpr whole.symm]
  dsimp only
  rw [taken]
  exact ⟨_, rfl⟩

theorem Cut.parse_iff (cut : Cut uri bucket after) {place : Location} :
    parse uri = .ok place ↔ bucket ≠ [] ∧ place = placeAt bucket after := by
  by_cases named : bucket = []
  · subst named
    obtain ⟨error, refused⟩ := parse_nameless cut.whole cut.ends
    simp [refused]
  · rw [parse_named cut.whole named cut.single cut.ends]
    simp [named, eq_comm]

theorem parse_splits {bucket key : List Char} (splits : Splits uri bucket key) :
    parse uri = .ok ⟨String.ofList bucket, String.ofList key⟩ :=
  parse_named splits.whole splits.named splits.single fun _ first => (Option.some.inj first).symm

theorem startsWith_of_parse (parsed : parse uri = .ok location) :
    Text.startsWith scheme uri = true := by
  rw [parse, Text.rest?] at parsed
  cases found : scheme.toList.isPrefixOf? uri.toList with
  | none =>
      rw [found] at parsed
      cases parsed
  | some rest =>
      exact Text.startsWith_iff.mpr ⟨rest, List.isPrefixOf?_eq_some_iff_append_eq.mp found⟩

theorem splits_of_parse (parsed : parse uri = .ok location) (keyed : location.key.toList ≠ []) :
    Splits uri location.bucket.toList location.key.toList := by
  obtain ⟨bucket, after, cut⟩ := exists_cut (startsWith_of_parse parsed)
  obtain ⟨named, rfl⟩ := cut.parse_iff.mp parsed
  cases after with
  | nil => exact absurd rfl keyed
  | cons c key =>
      obtain rfl := cut.ends c rfl
      simpa [placeAt] using Splits.mk cut.whole named cut.single

theorem storage_of_parse (failed : parse uri = .error error) : ∃ text, error = .storage text := by
  rw [parse] at failed
  split at failed
  · exact ⟨_, (Except.error.inj failed).symm⟩
  · dsimp only at failed
    split at failed
    · exact ⟨_, (Except.error.inj failed).symm⟩
    · cases failed

theorem ofObject_iff : ofObject uri = .ok location ↔ Addresses uri location := by
  rw [ofObject]
  constructor
  · intro read
    cases parsed : parse uri with
    | error => simp [parsed, bind, Except.bind] at read
    | ok place =>
      simp only [parsed, bind, Except.bind] at read
      split at read
      · cases read
      · next keyed =>
        cases read
        have keyed : location.key.toList ≠ [] := by simpa using keyed
        exact ⟨splits_of_parse parsed keyed, keyed⟩
  · rintro ⟨splits, keyed⟩
    have parsed := parse_splits splits
    rw [String.ofList_toList, String.ofList_toList] at parsed
    have filled : location.key.isEmpty = false := by simpa using keyed
    simp [parsed, bind, Except.bind, filled]

theorem ofDirectory_splits {bucket key : List Char} (splits : Splits uri bucket key)
    (more : ∃ c ∈ key, c ≠ '/') : ofDirectory uri = .ok (within bucket key) := by
  obtain ⟨c, member, other⟩ := more
  have some : key.all (· == '/') = false := List.all_eq_false.mpr ⟨c, member, by simpa using other⟩
  rw [ofDirectory, parse_splits splits]
  by_cases closed : key.getLast? = .some '/'
  · simp [bind, Except.bind, within, some, closed]
  · simp [bind, Except.bind, within, some, closed]

theorem splits_of_ofDirectory (read : ofDirectory uri = .ok directory) :
    ∃ bucket key, Splits uri bucket key ∧ ∃ c ∈ key, c ≠ '/' := by
  rw [ofDirectory] at read
  cases parsed : parse uri with
  | error => simp [parsed, bind, Except.bind] at read
  | ok place =>
    simp only [parsed, bind, Except.bind] at read
    split at read
    · cases read
    · next more =>
      obtain ⟨c, member, other⟩ := List.all_eq_false.mp (Bool.eq_false_iff.mpr more)
      have splits := splits_of_parse parsed (List.ne_nil_of_mem member)
      exact ⟨_, _, splits, c, member, by simpa using other⟩

theorem storage_of_parse_bind {f : Location → Except Error Location}
    (failed : parse uri >>= f = .error error)
    (refused : ∀ place, f place = .error error → ∃ text, error = .storage text) :
    ∃ text, error = .storage text := by
  cases parsed : parse uri with
  | error =>
    rw [parsed] at failed
    cases failed
    exact storage_of_parse parsed
  | ok place =>
    rw [parsed] at failed
    exact refused place failed

theorem storage_of_ofObject (failed : ofObject uri = .error error) :
    ∃ text, error = .storage text := by
  refine storage_of_parse_bind failed fun place refused => ?_
  split at refused
  · exact ⟨_, (Except.error.inj refused).symm⟩
  · cases refused

theorem storage_of_ofDirectory (failed : ofDirectory uri = .error error) :
    ∃ text, error = .storage text := by
  refine storage_of_parse_bind failed fun place refused => ?_
  dsimp only at refused
  split at refused
  · exact ⟨_, (Except.error.inj refused).symm⟩
  · split at refused <;> cases refused

end AthenaModels.Location
