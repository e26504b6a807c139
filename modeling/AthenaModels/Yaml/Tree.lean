import AthenaModels.Source.Basic
import AthenaModels.Yaml.Atom
import AthenaModels.Yaml.Node.Reader

/-! Documents as trees, with aliases replaced and scalars resolved. -/

namespace AthenaModels.Yaml

inductive Tree where
  | atom (value : Atom)
  | sequence (items : List Tree)
  | mapping (entries : List (Tree × Tree))
  | tagged (name : String) (content : Tree)
deriving Inhabited

namespace Tree

mutual
/-- Equality of keys: the order of a mapping does not matter. -/
def same : Tree → Tree → Bool
  | .atom a, .atom b => a == b
  | .sequence as, .sequence bs => sameItems as bs
  | .mapping as, .mapping bs => as.length == bs.length && sameEntries as bs
  | .tagged name a, .tagged other b => name == other && same a b
  | _, _ => false

def sameItems : List Tree → List Tree → Bool
  | [], [] => true
  | a :: as, b :: bs => same a b && sameItems as bs
  | _, _ => false

def sameEntries : List (Tree × Tree) → List (Tree × Tree) → Bool
  | [], _ => true
  | (key, value) :: as, bs =>
      bs.any (fun entry => same key entry.1 && same value entry.2) && sameEntries as bs
end

def hasRepeatedKey : List (Tree × Tree) → Bool
  | [] => false
  | (key, _) :: entries => entries.any (fun entry => same key entry.1) || hasRepeatedKey entries

def ownTag? (tag : Option String) : Option String := do
  match (← tag).toList with
  | ['!'] => some "!"
  | '!' :: name => some (String.ofList name)
  | _ => none

def withTag (tag : Option String) (tree : Tree) : Tree :=
  match ownTag? tag with
  | some name => .tagged name tree
  | none => tree

/-- The node that is meant. An alias uses up one of the jumps that are left. -/
def target? (document : Document) (node : Node) : StateT Nat Option Node := do
  if let .alias _ := node then
    match ← get with
    | 0 => failure
    | jumps + 1 => set jumps
  document.target? node

def ofScalar? (tag : Option String) (style : Style) (text : String) : Option Tree :=
  (Atom.ofScalar? tag style text).map fun atom => withTag tag (.atom atom)

def ofNode? (document : Document) : Nat → Node → StateT Nat Option Tree
  | 0, node => do
      match ← target? document node with
      | .scalar _ tag style text => ofScalar? tag style text
      | _ => failure
  | depth + 1, node => do
      match ← target? document node with
      | .alias _ => failure
      | .scalar _ tag style text => ofScalar? tag style text
      | .sequence _ tag items =>
          return withTag tag (.sequence (← items.mapM (ofNode? document depth)))
      | .mapping _ tag entries =>
          let entries ← entries.mapM fun (key, value) =>
            return (← ofNode? document depth key, ← ofNode? document depth value)
          if hasRepeatedKey entries then failure
          return withTag tag (.mapping entries)

def maxDepth : Nat := 128

/-- The number of jumps is limited, so that few aliases cannot stand for a huge tree. -/
def ofDocument? (document : Document) : Option Tree :=
  (ofNode? document maxDepth document.root).run' (100 * document.root.eventCount)

def ofText? (text : String) : Option Tree := do
  ofDocument? (← Document.ofText? text)

def untagged : Tree → Tree
  | .tagged _ content => untagged content
  | tree => tree

def text? (tree : Tree) : Option String :=
  match tree.untagged with
  | .atom (.text text) => some text
  | _ => none

def get? (tree : Tree) (name : String) : Option Tree :=
  match tree.untagged with
  | .mapping entries =>
      (entries.find? fun entry => same entry.1 (.atom (.text name))).map Prod.snd
  | _ => none

def items? (tree : Tree) : Option (List Tree) :=
  match tree.untagged with
  | .sequence items => some items
  | _ => none

def members? (tree : Tree) : Option (Members Tree) :=
  match tree.untagged with
  | .mapping entries => do
      let entries ← entries.mapM fun (key, value) => key.text?.map (·, value)
      some (.named entries)
  | .sequence items => some (.ordered items)
  | _ => none

instance : Source Tree where
  text? := text?
  natural? tree :=
    match tree.untagged with
    | .atom (.natural value) => some value
    | _ => none
  optional?
    | .atom .null => some none
    | tree => some (some tree)
  items? := items?
  members? := members?
  choice? := text?
  word? := text?
  words? tree := do (← tree.items?).mapM text?

end Tree
end AthenaModels.Yaml
