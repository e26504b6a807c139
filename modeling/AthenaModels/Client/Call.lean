import AthenaModels.Warehouse

/-! Calls of a client. Besides what a call asks of the warehouse there is the preparation that its
caller wants before each submission; what that does is the caller's affair. -/

namespace AthenaModels

namespace Call

inductive Request where
  | own (r : Warehouse.Request)
  | prepare
deriving DecidableEq, Repr

abbrev Reply : Request → Type
  | .own r => Warehouse.Reply r
  | .prepare => Except Error Unit

abbrev service : Service := ⟨Request, Reply⟩

end Call

abbrev Call (α : Type) := Fallible Call.service α

namespace Call

def ask (r : Request) : Program service (Reply r) := Program.request (S := service) r

def own {α : Type} (work : Work α) : Call α := work.translate fun r => ask (.own r)

def prepare : Call Unit := .mk (ask .prepare)

def carryOut (preparation : Work Unit) : (r : Request) → Program Warehouse.service (Reply r)
  | .own r => Work.ask r
  | .prepare => preparation.run

def prepared {α : Type} (call : Call α) (preparation : Work Unit) : Work α :=
  call.translate (carryOut preparation)

end Call
end AthenaModels
