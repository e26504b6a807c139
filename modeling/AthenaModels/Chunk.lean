namespace AthenaModels.Chunk

variable {α : Type}

def cut (size : Nat) : Nat → List α → List (List α)
  | 0, _ => []
  | _ + 1, [] => []
  | fuel + 1, items => items.take size :: cut size fuel (items.drop size)

/-- Parts of `size` items, of which the last may be shorter: `List.toChunks`, which needs more than
the core library. -/
def ofList (size : Nat) (items : List α) : List (List α) :=
  cut size items.length items

end AthenaModels.Chunk
