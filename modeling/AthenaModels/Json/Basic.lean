namespace AthenaModels

/-- A JSON value. Members keep their order and may repeat. A string that escapes half of a
surrogate pair has no text. -/
inductive Json where
  | null
  | bool (value : Bool)
  | natural (value : Nat)
  | negative (value : Nat)
  | real
  | string (text : String)
  | unpaired
  | array (items : List Json)
  | object (members : List (Option String × Json))
deriving Inhabited, Repr

namespace Json

def ofMembers (members : List (String × Json)) : Json :=
  .object (members.map fun (name, value) => (some name, value))

def ofOption (encode : α → Json) : Option α → Json
  | none => .null
  | some value => encode value

def ofTexts (texts : List String) : Json :=
  .array (texts.map .string)

end Json
end AthenaModels
