import AthenaModels.Source.Basic
import AthenaModels.Yaml.Atom
import AthenaModels.Yaml.Node.Reader

/-! Nodes read in place: a text is what a scalar says, whatever else it could stand for. -/

namespace AthenaModels.Yaml

structure Cursor where
  document : Document
  node : Node

namespace Cursor

def ofText? (text : String) : Option Cursor := do
  let document ← Document.ofText? text
  some ⟨document, document.root⟩

def target? (c : Cursor) : Option Node := c.document.target? c.node

def isAbsent (style : Style) (text : String) : Bool :=
  style == .plain && (text.isEmpty || Atom.isNullWord text)

def text? (c : Cursor) : Option String := do
  match ← c.target? with
  | .scalar _ _ _ text => some text
  | _ => none

def natural? (c : Cursor) : Option Nat := do
  match ← c.target? with
  | .scalar _ tag style text =>
      if style == .plain || (style == .literal && tag == some (Atom.coreTag "int")) then
        Atom.natural? (Nat.pow 2 64) text
      else none
  | _ => none

def optional? (c : Cursor) : Option (Option Cursor) := do
  match ← c.target? with
  | .scalar _ tag .plain text =>
      if tag == some (Atom.coreTag "null") then
        if Atom.isNullWord text then some none else none
      else if tag.isNone && isAbsent .plain text then some none
      else some (some c)
  | _ => some (some c)

/-- An empty text is an empty list. -/
def items? (c : Cursor) : Option (List Cursor) := do
  match ← c.target? with
  | .sequence _ _ items => some (items.map (⟨c.document, ·⟩))
  | .scalar _ _ .plain "" => some []
  | _ => none

def members? (c : Cursor) : Option (Members Cursor) := do
  match ← c.target? with
  | .mapping _ _ entries =>
      let entries ← entries.mapM fun (key, value) => do
        some (← text? ⟨c.document, key⟩, (⟨c.document, value⟩ : Cursor))
      some (.named entries)
  | .scalar _ _ .plain "" => some (.named [])
  | _ => none

/-- A choice is a text, or a tag of the document's own before an absent value. -/
def choice? (c : Cursor) : Option String := do
  match ← c.target? with
  | .scalar _ tag style text =>
      match (tag.getD "").toList with
      | '!' :: name => if isAbsent style text then some (String.ofList name) else none
      | _ => some text
  | _ => none

def word? (c : Cursor) : Option String := do
  match ← c.target? with
  | .scalar _ tag style text =>
      if tag.any (·.startsWith "!") then none
      else
        match ← Atom.ofScalar? tag style text with
        | .text text => some text
        | _ => none
  | _ => none

def words? (c : Cursor) : Option (List String) := do
  match ← c.target? with
  | .sequence _ tag items =>
      if tag.any (·.startsWith "!") then none else items.mapM fun item => word? ⟨c.document, item⟩
  | _ => none

instance : Source Cursor where
  text? := text?
  natural? := natural?
  optional? := optional?
  items? := items?
  members? := members?
  choice? := choice?
  word? := word?
  words? := words?

end Cursor
end AthenaModels.Yaml
