import AthenaModels.Number.Numeral
import AthenaModels.Text.Case

namespace AthenaModels

inductive Variable where
  | text (value : String)
  | bytes
deriving DecidableEq, Repr

structure Environment where
  entries : List (String × Variable)
deriving Repr

namespace Environment

def text? (env : Environment) (name : String) : Option String :=
  match env.entries.lookup name with
  | some (.text value) => some value
  | _ => none

/-- The value of a variable; an empty text is as good as none. -/
def value? (env : Environment) (name : String) : Option String :=
  (env.text? name).filter (· != "")

def set (env : Environment) (name value : String) : Environment :=
  ⟨(name, .text value) :: env.entries.filter (·.1 != name)⟩

def profileVariable : String := "DBATHENA_PROFILE"

def activeProfile (env : Environment) : String :=
  ((env.value? profileVariable).map Text.upper).getD ""

/-- With the profile `PROD`, `PROD_KEY` goes before `KEY`. -/
def profiled? (env : Environment) (profile key : String) : Option String :=
  if profile = "" then env.value? key
  else
    match env.value? (profile ++ "_" ++ key) with
    | some value => some value
    | none => env.value? key

def profiledFirst? (env : Environment) (profile : String) (keys : List String) : Option String :=
  keys.findSome? (env.profiled? profile)

/-- A value that cannot be read is as good as none. -/
def parsed? {α : Type} (env : Environment) (profile key : String) (parse : String → Option α) :
    Option α := do
  parse (← env.profiled? profile key)

end Environment
end AthenaModels
