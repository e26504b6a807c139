import AthenaModels.Error
import AthenaModels.Text.Basic

namespace AthenaModels

structure Location where
  bucket : String
  key : String
deriving DecidableEq, Repr

namespace Location

def scheme : String := "s3://"

def parse (uri : String) : Except Error Location :=
  match Text.rest? scheme.toList uri.toList with
  | none => .error (.storage ("not an s3:// URI: '" ++ uri ++ "'"))
  | some rest =>
      let bucket := rest.takeWhile (· != '/')
      if bucket.isEmpty then .error (.storage ("missing bucket in '" ++ uri ++ "'"))
      else .ok ⟨String.ofList bucket, String.ofList (rest.drop (bucket.length + 1))⟩

def refuseRoot {α : Type} (uri : String) : Except Error α :=
  .error (.storage ("refusing to delete bucket root '" ++ uri ++ "'"))

/-- The place of an object, which has a key. -/
def ofObject (uri : String) : Except Error Location := do
  let location ← parse uri
  if location.key.isEmpty then refuseRoot uri else .ok location

/-- The place of a directory: its key ends in a slash and is more than slashes, so that never a
whole bucket is meant. -/
def ofDirectory (uri : String) : Except Error Location := do
  let location ← parse uri
  let key := location.key.toList
  if key.all (· == '/') then refuseRoot uri
  else if key.getLast? == some '/' then .ok location
  else .ok { location with key := String.ofList (key ++ ['/']) }

def join (base rest : String) : String :=
  String.ofList (base.toList.reverse.dropWhile (· == '/')).reverse ++ "/" ++
    String.ofList (rest.toList.dropWhile (· == '/'))

end Location
end AthenaModels
