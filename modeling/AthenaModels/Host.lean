import AthenaModels.Engine
import AthenaModels.Store.Deletion
import AthenaModels.Warehouse

/-! The warehouse made of its parts: the engine's interface, the object store, and the rest. -/

namespace AthenaModels.Host

inductive Request where
  | engine (action : Engine.Action)
  | store (request : ObjectStore.Request)
  | sleep (seconds : Nat)
  | clock
  | now
  | freshSuffix
  | freshUuid

def Reply : Request → Type
  | .engine _ => Engine.Answer
  | .store request => ObjectStore.Reply request
  | .sleep _ => Unit
  | .clock => Nat
  | .now => Timestamp
  | .freshSuffix => String
  | .freshUuid => String

def service : Service := ⟨Request, Reply⟩

def ask (r : Request) : Program service (Reply r) := Program.request (S := service) r

def exchange {α : Type} (exchange : Engine.Exchange α) : Program service (Except Error α) :=
  Program.translate (fun action => ask (.engine action)) exchange.run

def deletion {α : Type} (deletion : ObjectStore.Deletion α) : Program service (Except Error α) :=
  Program.translate (fun request => ask (.store request)) deletion.run

/-- How the host carries out what is asked of the warehouse; `patience` limits the listings of a
directory. -/
def carryOut (patience : Nat) : (r : Warehouse.Request) → Program service (Warehouse.Reply r)
  | .start query => exchange (Engine.start query)
  | .status id => exchange (Engine.execution id)
  | .page id token => exchange (Engine.resultPage id token)
  | .stop id => exchange (Engine.stop id)
  | .deleteObjects uris => deletion (ObjectStore.deleteObjects uris)
  | .deletePrefix location => deletion (ObjectStore.deletePrefix patience location)
  | .sleep seconds => ask (.sleep seconds)
  | .clock => ask .clock
  | .now => ask .now
  | .freshSuffix => ask .freshSuffix
  | .freshUuid => ask .freshUuid

end AthenaModels.Host
