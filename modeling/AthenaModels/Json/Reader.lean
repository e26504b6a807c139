import AthenaModels.Json.Basic
import AthenaModels.Json.Written

namespace AthenaModels.Json

def isExponent (text : List Char) : Bool :=
  let digits :=
    match text with
    | '+' :: rest => rest
    | '-' :: rest => rest
    | rest => rest
  !digits.isEmpty && digits.all isDigit

def isRealTail (text : List Char) : Bool :=
  let (isFraction, rest) :=
    match text with
    | '.' :: rest => (!(rest.takeWhile isDigit).isEmpty, rest.dropWhile isDigit)
    | rest => (true, rest)
  isFraction &&
    match rest with
    | [] => true
    | 'e' :: rest => isExponent rest
    | 'E' :: rest => isExponent rest
    | _ => false

def isUnsigned (text : List Char) : Bool :=
  let digits := text.takeWhile isDigit
  !digits.isEmpty && (digits.head? != some '0' || digits.length == 1) &&
    isRealTail (text.dropWhile isDigit)

def isNumber : List Char → Bool
  | '-' :: rest => isUnsigned rest
  | text => isUnsigned text

mutual
def numbersHold : Written → Bool
  | .number digits => isNumber digits
  | .array items => itemNumbersHold items
  | .object members => memberNumbersHold members
  | _ => true

def itemNumbersHold : List Written → Bool
  | [] => true
  | item :: items => numbersHold item && itemNumbersHold items

def memberNumbersHold : List (List Char × Written) → Bool
  | [] => true
  | (_, value) :: members => numbersHold value && memberNumbersHold members
end

def ofNumber : List Char → Json
  | '-' :: digits =>
      match Numeral.natural? 10 digits with
      | some (n + 1) => .negative (n + 1)
      | _ => .real
  | digits => ((Numeral.natural? 10 digits).map .natural).getD .real

def escapeTail? (first : Char) (rest : List Char) : Option (List Char × List Char) :=
  if first = 'u' then do
    let (_, after) ← hex4? rest
    some (rest.take 4, after)
  else if isEscape first then some ([], rest)
  else none

def standard : Grammar where
  isPlain c := !decide (c.toNat < 32)
  escapeTail? := escapeTail?
  isNumber := isNumber

mutual
def ofWritten : Written → Json
  | .null => .null
  | .bool value => .bool value
  | .number digits => ofNumber digits
  | .string text => ((unescape? text).map .string).getD .unpaired
  | .array items => .array (ofItems items)
  | .object members => .object (ofEntries members)

def ofItems : List Written → List Json
  | [] => []
  | item :: items => ofWritten item :: ofItems items

def ofEntries : List (List Char × Written) → List (Option String × Json)
  | [] => []
  | (name, value) :: members => (unescape? name, ofWritten value) :: ofEntries members
end

def ofText? (text : String) : Option Json :=
  (Written.ofText? standard text).map ofWritten

end AthenaModels.Json
