import AthenaModels.Yaml.Token.Basic

namespace AthenaModels.Yaml

/-- A node. An anchor takes a slot, and an alias stands for what a slot holds. -/
inductive Node where
  | alias (slot : Nat)
  | scalar (anchor : Option Nat) (tag : Option String) (style : Style) (text : String)
  | sequence (anchor : Option Nat) (tag : Option String) (items : List Node)
  | mapping (anchor : Option Nat) (tag : Option String) (entries : List (Node × Node))
deriving Inhabited

namespace Node

def empty : Node := .scalar none none .plain ""

def atAnchor (anchor : Option Nat) (node : Node) : List (Nat × Node) :=
  anchor.toList.map (·, node)

mutual
/-- The nodes with an anchor, in the order in which they start. -/
def anchored : Node → List (Nat × Node)
  | .alias _ => []
  | .scalar anchor tag style text => atAnchor anchor (.scalar anchor tag style text)
  | .sequence anchor tag items =>
      atAnchor anchor (.sequence anchor tag items) ++ anchoredItems items
  | .mapping anchor tag entries =>
      atAnchor anchor (.mapping anchor tag entries) ++ anchoredEntries entries

def anchoredItems : List Node → List (Nat × Node)
  | [] => []
  | item :: items => anchored item ++ anchoredItems items

def anchoredEntries : List (Node × Node) → List (Nat × Node)
  | [] => []
  | (key, value) :: entries => anchored key ++ anchored value ++ anchoredEntries entries
end

mutual
/-- The number of starts and ends, a scalar or an alias counting once. -/
def eventCount : Node → Nat
  | .alias _ => 1
  | .scalar _ _ _ _ => 1
  | .sequence _ _ items => 2 + itemsEventCount items
  | .mapping _ _ entries => 2 + entriesEventCount entries

def itemsEventCount : List Node → Nat
  | [] => 0
  | item :: items => eventCount item + itemsEventCount items

def entriesEventCount : List (Node × Node) → Nat
  | [] => 0
  | (key, value) :: entries => eventCount key + eventCount value + entriesEventCount entries
end

end Node

structure Document where
  root : Node
  slots : List (Nat × Node)

namespace Document

/-- The node that took a slot last has it. -/
def ofRoot (root : Node) : Document := ⟨root, root.anchored.reverse⟩

def target? (document : Document) : Node → Option Node
  | .alias slot => document.slots.lookup slot
  | node => some node

end Document
end AthenaModels.Yaml
