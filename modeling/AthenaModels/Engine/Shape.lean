import AthenaModels.Json.Reader
import AthenaModels.Number.Decimal
import AthenaModels.Timestamp

namespace AthenaModels.Engine

inductive Shape where
  | text
  | integer (bits : Nat)
  | real
  | flag
  | moment
  | list (item : Shape)
  | record (parts : List (String × Shape)) (needed : List String)

def isMember (name : String) (member : List Char × Json.Written) : Bool :=
  Json.unescape? member.1 == some name && !member.2.isNull

def member? (members : List (List Char × Json.Written)) (name : String) : Option Json.Written :=
  (members.reverse.find? (isMember name)).map Prod.snd

namespace Shape

/-- A moment is a count of seconds, whole or not. -/
def takesNumber (digits : List Char) : Shape → Bool
  | .integer bits => (Numeral.signed? bits (String.ofList digits)).isSome
  | .real => (Decimal.ofText? digits).isSome
  | .moment =>
      if digits.any fun c => c == '.' || c == 'e' || c == 'E' then (Decimal.ofText? digits).isSome
      else (Numeral.signed? 64 (String.ofList digits)).isSome
  | _ => false

def takesText (text : String) : Shape → Bool
  | .text => true
  | .real => ["NaN", "Infinity", "-Infinity"].contains text
  | .moment => Timestamp.isUniversal text
  | _ => false

mutual
/-- Names that are unknown may have any value, if its numbers are written in the standard grammar; a
number that is known may be written in more ways. A list has no nulls. -/
def fits : Json.Written → Shape → Bool
  | .bool _, .flag => true
  | .number digits, shape => shape.takesNumber digits
  | .string chars, shape => ((Json.unescape? chars).map (takesText · shape)).getD false
  | .array items, .list item => itemsFit items item
  | .object members, .record parts needed =>
      membersFit members parts && needed.all fun name => (member? members name).isSome
  | _, _ => false

def itemsFit : List Json.Written → Shape → Bool
  | [], _ => true
  | item :: items, shape => fits item shape && itemsFit items shape

def membersFit : List (List Char × Json.Written) → List (String × Shape) → Bool
  | [], _ => true
  | (name, value) :: members, parts =>
      (match Json.unescape? name with
        | some name =>
            match parts.lookup name with
            | some shape => value.isNull || fits value shape
            | none => Json.numbersHold value
        | none => false) &&
        membersFit members parts
end

end Shape
end AthenaModels.Engine
