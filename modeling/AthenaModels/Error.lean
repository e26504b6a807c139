namespace AthenaModels

inductive ConfigError where
  | missing (key : String)
  | invalid (key reason : String)
  | unsupported (text : String)
  | io (text : String)
  | parse (text : String)
deriving DecidableEq, Repr

def ConfigError.message : ConfigError → String
  | .missing key => "missing required config key: " ++ key
  | .invalid key reason => "invalid value for " ++ key ++ ": " ++ reason
  | .unsupported text => "unsupported configuration: " ++ text
  | .io text => "IO error: " ++ text
  | .parse text => "parse error: " ++ text

def ConfigError.causes : ConfigError → List String
  | .io text => [text]
  | _ => []

inductive Error where
  | queryFailed (id reason : String)
  | queryCancelled (id : String)
  | queryTimeout (id : String) (seconds : Nat)
  | retriesExhausted (attempts : Nat) (last : Error)
  | service (text : String)
  | malformed (text : String)
  | storage (text : String)
  | config (error : ConfigError)
deriving DecidableEq, Repr

namespace Error

def message : Error → String
  | .queryFailed id reason => "Query " ++ id ++ " failed: " ++ reason
  | .queryCancelled id => "Query " ++ id ++ " was cancelled"
  | .queryTimeout id seconds => "Query " ++ id ++ " timed out after " ++ toString seconds ++ "s"
  | .retriesExhausted attempts last =>
      "Query failed after " ++ toString attempts ++ " attempt(s): " ++ last.message
  | .service text => "AWS SDK error: " ++ text
  | .malformed text => "Parse error: " ++ text
  | .storage text => "Storage error: " ++ text
  | .config error => error.message

/-- Whether another submission may succeed where this one did not. -/
def isRetryable : Error → Bool
  | .queryFailed _ _ => true
  | .service _ => true
  | _ => false

def causes : Error → List String
  | .retriesExhausted _ last => last.message :: last.causes
  | .config error => error.causes
  | _ => []

end Error
end AthenaModels
