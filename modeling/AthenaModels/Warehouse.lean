import AthenaModels.Fallible
import AthenaModels.Query.Basic

namespace AthenaModels.Warehouse

inductive Request where
  | start (query : QueryRequest)
  | status (id : String)
  | page (id : String) (token : Option String)
  | stop (id : String)
  | deleteObjects (uris : List String)
  | deletePrefix (location : String)
  | sleep (seconds : Nat)
  /-- Nanoseconds on a clock that never goes back. -/
  | clock
  | now
  | freshSuffix
  | freshUuid
deriving DecidableEq, Repr

abbrev Reply : Request → Type
  | .start _ => Except Error String
  | .status _ => Except Error QueryStatus
  | .page _ _ => Except Error Page
  | .stop _ => Except Error Unit
  | .deleteObjects _ => Except Error Nat
  | .deletePrefix _ => Except Error Nat
  | .sleep _ => Unit
  | .clock => Nat
  | .now => Timestamp
  | .freshSuffix => String
  | .freshUuid => String

abbrev service : Service := ⟨Request, Reply⟩

end Warehouse

abbrev Work (α : Type) := Fallible Warehouse.service α

namespace Work

def ask (r : Warehouse.Request) : Program Warehouse.service (Warehouse.Reply r) :=
  Program.request (S := Warehouse.service) r

def start (query : QueryRequest) : Work String := .mk (ask (.start query))

def status (id : String) : Work QueryStatus := .mk (ask (.status id))

def page (id : String) (token : Option String) : Work Page := .mk (ask (.page id token))

def stop (id : String) : Work Unit := .mk (ask (.stop id))

def deleteObjects (uris : List String) : Work Nat := .mk (ask (.deleteObjects uris))

def deletePrefix (location : String) : Work Nat := .mk (ask (.deletePrefix location))

def sleep (seconds : Nat) : Work Unit := .lift (ask (.sleep seconds))

def clock : Work Nat := .lift (ask .clock)

def now : Work Timestamp := .lift (ask .now)

def freshSuffix : Work String := .lift (ask .freshSuffix)

def freshUuid : Work String := .lift (ask .freshUuid)

end Work
end AthenaModels
