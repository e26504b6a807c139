import AthenaModels.Engine.Operation
import AthenaModels.Refusal

namespace AthenaModels.Engine

inductive Answer where
  | undelivered
  | delivered (status : Nat) (body : String)

/-- Any character may stand in a string or follow a backslash, and any run of digits, signs, points
and exponent marks is a number; what is wrong with them shows when they are read for a shape. -/
def lenient : Json.Grammar where
  isPlain _ := true
  escapeTail? _ rest := some ([], rest)
  isNumber _ := true

def depthLimit : Nat := 128

/-- The text of an answer; a blank one stands for an empty object. -/
def content? (body : String) : Option Json.Written :=
  if (Json.skipSpace body.toList).isEmpty then some (.object [])
  else (Json.Written.ofText? lenient body).filter fun value => value.depth ≤ depthLimit

def result? (shape : Shape) (body : String) : Option Json.Written :=
  (content? body).filter fun value => Shape.fits value shape

def bytes? : Nat → List Char → Option (List Char × List Char)
  | 0, rest => some ([], rest)
  | _ + 1, [] => none
  | count + 1, c :: rest => do
      let (taken, rest) ← bytes? (count + 1 - c.utf8Size) rest
      some (c :: taken, rest)

/-- The four bytes after a `u` are not looked at. -/
def guardedTail? (first : Char) (rest : List Char) : Option (List Char × List Char) :=
  if first = 'u' then bytes? 4 rest
  else if Json.isEscape first then some ([], rest)
  else none

/-- A number of 64 bits and a sign, or one with a fraction or an exponent in the range of
binary64. -/
def isGuardedNumber (digits : List Char) : Bool :=
  if digits.any fun c => c == '.' || c == 'e' || c == 'E' then
    digits.head?.any (fun c => c == '-' || Json.isDigit c) &&
      ((Decimal.ofText? digits).bind Decimal.nearest?).isSome
  else
    match digits with
    | '-' :: rest => (Numeral.below? (Nat.pow 2 64) (String.ofList rest)).isSome
    | rest => (Numeral.natural? 10 rest).any (· < Nat.pow 2 64)

def guarded : Json.Grammar where
  isPlain c := !decide (c.toNat < 32)
  escapeTail? := guardedTail?
  isNumber := isGuardedNumber

/-- The names under which an error is told. They are compared as they are written. -/
def isTelling (name : String) : Bool :=
  ["code", "__type", "message", "Message", "errorMessage"].contains name

def telling? : List Char × Json.Written → Option (Option (String × String))
  | (name, .string chars) =>
      if isTelling (String.ofList name) then
        (Json.unescape? chars).map fun text => some (String.ofList name, text)
      else some none
  | _ => some none

/-- What the value at the start of a text tells; the last text under a name is found first. -/
def tellings? (body : String) : Option (List (String × String)) :=
  match Json.Written.leading? guarded body with
  | some (.object members, _) => do
      let tellings ← members.mapM telling?
      some (tellings.filterMap id).reverse
  | _ => none

def errorName? (body : String) : Option String := do
  let tellings ← tellings? body
  tellings.lookup "code" <|> tellings.lookup "__type"

/-- The name of an error without the place where it is declared or explained. -/
def bareName (name : String) : String :=
  let chars := name.toList.takeWhile (· != ':')
  match chars.dropWhile (· != '#') with
  | _ :: rest => String.ofList rest
  | [] => String.ofList chars

def Operation.refusal (operation : Operation) (body : String) : Refusal :=
  match errorName? body with
  | some name =>
      match operation.errors.lookup (bareName name) with
      | some shape => if (result? shape body).isSome then .refused else .unreadable
      | none => .refused
  | none => .unreadable

def isSuccess (status : Nat) : Bool := 200 ≤ status && status < 300

def Operation.read (operation : Operation) : Answer → Except Refusal Json.Written
  | .undelivered => .error .undelivered
  | .delivered status body =>
      if isSuccess status then
        match result? operation.result body with
        | some value => .ok value
        | none => .error .unreadable
      else .error (operation.refusal body)

end AthenaModels.Engine
