/-! Finite sets as lists that ascend strictly. -/

namespace AthenaModels.Ascending

variable {α : Type} [Ord α]

def insert (a : α) : List α → List α
  | [] => [a]
  | b :: rest =>
      match compare a b with
      | .lt => a :: b :: rest
      | .eq => b :: rest
      | .gt => b :: insert a rest

def ofList (items : List α) : List α :=
  items.foldr insert []

end AthenaModels.Ascending
