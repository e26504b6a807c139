import AthenaModels.Chunk
import AthenaModels.Program
import AthenaModels.Refusal
import AthenaModels.Store.Group

namespace AthenaModels

namespace ObjectStore

structure Listing where
  keys : List String
  isTruncated : Bool
  nextToken : Option String
deriving DecidableEq, Repr

structure KeyError where
  key : Option String
  text : Option String
deriving DecidableEq, Repr

inductive Request where
  | list (bucket stem : String) (token : Option String)
  /-- Deletes keys of a bucket and reports only those that are left. -/
  | delete (bucket : String) (keys : List String)
deriving DecidableEq, Repr

def Reply : Request → Type
  | .list _ _ _ => Except Refusal Listing
  | .delete _ _ => Except Refusal (List KeyError)

def service : Service := ⟨Request, Reply⟩

abbrev Deletion (α : Type) := ExceptT Error (Program service) α

def listing (bucket stem : String) (token : Option String) : Deletion Listing := do
  let reply ← liftM (Program.request (S := service) (.list bucket stem token))
  match reply with
  | .ok listing => return listing
  | .error refusal => throw (.storage refusal.message)

def deleteBatch (bucket : String) (keys : List String) : Deletion Nat := do
  let reply ← liftM (Program.request (S := service) (.delete bucket keys))
  match reply with
  | .ok [] => return keys.length
  | .ok (error :: _) =>
      throw (.storage ("failed to delete s3://" ++ bucket ++ "/" ++ error.key.getD "?" ++ ": " ++
        error.text.getD "unknown error"))
  | .error refusal => throw (.storage refusal.message)

def maxBatch : Nat := 1000

def deleteKeys (bucket : String) (keys : List String) : Deletion Nat := do
  let counts ← (Chunk.ofList maxBatch keys).mapM (deleteBatch bucket)
  return counts.foldl (· + ·) 0

/-- Deletes the objects that texts name; all of them are read before the first is deleted. -/
def deleteObjects (uris : List String) : Deletion Nat := do
  match BucketKeys.ofUris uris with
  | .error error => throw error
  | .ok groups =>
      let counts ← groups.mapM fun group => deleteKeys group.bucket group.keys
      return counts.foldl (· + ·) 0

/-- The keys that start with a text, from a token on. A token counts only when there is more. -/
def keysFrom (bucket stem : String) : Nat → Option String → Deletion (List String)
  | 0, _ => .mk .exhausted
  | patience + 1, token => do
      let listing ← listing bucket stem token
      match listing.nextToken with
      | some token =>
          if listing.isTruncated then
            return listing.keys ++ (← keysFrom bucket stem patience (some token))
          else return listing.keys
      | none => return listing.keys

def deletePrefix (patience : Nat) (uri : String) : Deletion Nat := do
  match Location.ofDirectory uri with
  | .error error => throw error
  | .ok directory =>
      let keys ← keysFrom directory.bucket directory.key patience none
      deleteKeys directory.bucket keys

end ObjectStore
end AthenaModels
