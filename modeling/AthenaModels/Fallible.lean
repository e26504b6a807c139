import AthenaModels.Error
import AthenaModels.Program

namespace AthenaModels

abbrev Fallible (S : Service) (α : Type) := ExceptT Error (Program S) α

namespace Fallible

variable {S T : Service} {α : Type}

def exhausted : Fallible S α := .mk .exhausted

def ofExcept : Except Error α → Fallible S α
  | .ok value => pure value
  | .error error => throw error

def ofConfig (value : Except ConfigError α) : Fallible S α :=
  ofExcept (value.mapError .config)

/-- The outcome as a value, so that what follows goes on after an error. -/
def outcome (p : Fallible S α) : Fallible S (Except Error α) := .lift p.run

def translate (carryOut : (r : S.Request) → Program T (S.Reply r)) (p : Fallible S α) :
    Fallible T α :=
  .mk (p.run.translate carryOut)

end Fallible
end AthenaModels
