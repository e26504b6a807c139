import AthenaModels.Json.Basic
import AthenaModels.Number.Numeral
import AthenaModels.Text.Basic

namespace AthenaModels.Json

def writtenChar (c : Char) : String :=
  match c with
  | '\x22' => "\\\""
  | '\x5c' => "\\\\"
  | '\x08' => "\\b"
  | '\x0c' => "\\f"
  | '\n' => "\\n"
  | '\r' => "\\r"
  | '\t' => "\\t"
  | c =>
      if c.toNat < 32 then "\\u00" ++ String.ofList ((Numeral.upperHex 2 c.toNat).map Char.toLower)
      else c.toString

def writtenText (text : String) : String :=
  "\"" ++ String.join (text.toList.map writtenChar) ++ "\""

def newLine (depth : Nat) : String :=
  "\n" ++ String.ofList (List.replicate (2 * depth) ' ')

mutual
/-- The value with each item on a line of its own, two spaces further in than its container. -/
def pretty (depth : Nat) : Json → String
  | .null => "null"
  | .bool value => if value then "true" else "false"
  | .natural value => toString value
  | .negative value => "-" ++ toString value
  | .real => "null"
  | .string text => writtenText text
  | .unpaired => "null"
  | .array [] => "[]"
  | .array (item :: items) =>
      "[" ++ newLine (depth + 1) ++ pretty (depth + 1) item ++ prettyItems (depth + 1) items ++
        newLine depth ++ "]"
  | .object [] => "\x7b\x7d"
  | .object ((name, value) :: members) =>
      "\x7b" ++ newLine (depth + 1) ++ writtenText (name.getD "") ++ ": " ++
        pretty (depth + 1) value ++ prettyMembers (depth + 1) members ++ newLine depth ++ "\x7d"

def prettyItems (depth : Nat) : List Json → String
  | [] => ""
  | item :: items => "," ++ newLine depth ++ pretty depth item ++ prettyItems depth items

def prettyMembers (depth : Nat) : List (Option String × Json) → String
  | [] => ""
  | (name, value) :: members =>
      "," ++ newLine depth ++ writtenText (name.getD "") ++ ": " ++ pretty depth value ++
        prettyMembers depth members
end

end AthenaModels.Json
