namespace AthenaModels

inductive Refusal where
  | undelivered
  | refused
  | unreadable
deriving DecidableEq, Repr

def Refusal.message : Refusal → String
  | .undelivered => "dispatch failure"
  | .refused => "service error"
  | .unreadable => "response error"

end AthenaModels
