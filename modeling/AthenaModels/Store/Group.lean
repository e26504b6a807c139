import AthenaModels.Ascending
import AthenaModels.Store.Location

namespace AthenaModels

structure BucketKeys where
  bucket : String
  keys : List String
deriving DecidableEq, Repr

namespace BucketKeys

/-- Buckets ascend; the keys of each stay in order of first mention, each once. -/
def ofLocations (locations : List Location) : List BucketKeys :=
  (Ascending.ofList (locations.map (·.bucket))).map fun bucket =>
    ⟨bucket, ((locations.filter (·.bucket = bucket)).map (·.key)).eraseDups⟩

/-- The objects that texts name; an error for the first text that names none. -/
def ofUris (uris : List String) : Except Error (List BucketKeys) := do
  return ofLocations (← uris.mapM Location.ofObject)

end BucketKeys
end AthenaModels
