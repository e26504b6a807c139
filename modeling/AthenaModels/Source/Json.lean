import AthenaModels.Json.Reader
import AthenaModels.Source.Basic

/-! JSON values as sources: texts are strings, numbers are whole, lists are arrays, and a record is
an object or an array of its parts. -/

namespace AthenaModels.Json

def text? : Json → Option String
  | .string text => some text
  | _ => none

def members? : Json → Option (Members Json)
  | .object members => do
      let entries ← members.mapM fun (name, value) => name.map (·, value)
      some (.named entries)
  | .array items => some (.ordered items)
  | _ => none

def choice? : Json → Option String
  | .string text => some text
  | .object [(some name, .null)] => some name
  | _ => none

def items? : Json → Option (List Json)
  | .array items => some items
  | _ => none

instance : Source Json where
  text? := text?
  natural?
    | .natural value => some value
    | _ => none
  optional?
    | .null => some none
    | value => some (some value)
  items? := items?
  members? := members?
  choice? := choice?
  word? := text?
  words?
    | .array items => items.mapM text?
    | _ => none

end AthenaModels.Json
