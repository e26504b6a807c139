import AthenaModels.Number.Decimal
import AthenaModels.Yaml.Token.Basic

namespace AthenaModels.Yaml

inductive Real where
  | finite (negative : Bool) (value : Binary64)
  | infinite (negative : Bool)
  | undefined
deriving DecidableEq

inductive Atom where
  | null
  | bool (value : Bool)
  | natural (value : Nat)
  | negative (value : Nat)
  | real (value : Real)
  | text (text : String)
deriving DecidableEq

namespace Atom

def isNullWord (text : String) : Bool :=
  text == "null" || text == "Null" || text == "NULL" || text == "~"

def bool? (text : String) : Option Bool :=
  if text == "true" || text == "True" || text == "TRUE" then some true
  else if text == "false" || text == "False" || text == "FALSE" then some false
  else none

/-- Two digits or more of which the first is zero, as a rule a code and not a number. -/
def isCode (text : List Char) : Bool :=
  let digits :=
    match text with
    | '-' :: rest => rest
    | '+' :: rest => rest
    | rest => rest
  match digits with
  | '0' :: d :: rest => (d :: rest).all Char.isDigit
  | _ => false

def marked? : List Char → Option Nat
  | '0' :: 'x' :: digits => Numeral.natural? 16 digits
  | '0' :: 'o' :: digits => Numeral.natural? 8 digits
  | '0' :: 'b' :: digits => Numeral.natural? 2 digits
  | _ => none

def magnitude? (limit : Nat) (text : List Char) : Option Nat :=
  match (marked? text).filter (· < limit) with
  | some value => some value
  | none => if isCode text then none else (Numeral.natural? 10 text).filter (· < limit)

def natural? (limit : Nat) (text : String) : Option Nat :=
  match text.toList with
  | '+' :: rest => magnitude? limit rest
  | rest => magnitude? limit rest

def negative? (limit : Nat) (text : String) : Option Nat :=
  match text.toList with
  | '-' :: rest => magnitude? (limit + 1) rest
  | _ => none

/-- Numbers of 64 bits are read, those of up to 128 bits are refused, and larger ones are not whole
numbers to begin with. -/
def whole? (text : String) : Option (Option Atom) :=
  match natural? (Nat.pow 2 64) text, negative? (Nat.pow 2 63) text with
  | some value, _ => some (some (.natural value))
  | none, some 0 => some (some (.natural 0))
  | none, some value => some (some (.negative value))
  | none, none =>
      if (natural? (Nat.pow 2 128) text).isSome || (negative? (Nat.pow 2 127) text).isSome then none
      else some none

def isInfinity (text : List Char) : Bool :=
  [".inf", ".Inf", ".INF"].any (·.toList == text)

def real? (text : String) : Option Real :=
  let finite? (chars : List Char) : Option Real := do
    let decimal ← Decimal.ofText? chars
    let value ← decimal.nearest?
    some (.finite (decimal.negative && value.mantissa != 0) value)
  match text.toList with
  | '+' :: rest =>
      if rest.head?.any fun c => c == '+' || c == '-' then none
      else if isInfinity rest then some (.infinite false)
      else finite? rest
  | '-' :: rest => if isInfinity rest then some (.infinite true) else finite? ('-' :: rest)
  | chars =>
      if isInfinity chars then some (.infinite false)
      else if [".nan", ".NaN", ".NAN"].contains text then some .undefined
      else finite? chars

def coreTag (name : String) : String := "tag:yaml.org,2002:" ++ name

def ofPlain? (text : String) : Option Atom := do
  if text.isEmpty || isNullWord text then some .null
  else
    match bool? text with
    | some value => some (.bool value)
    | none =>
        match ← whole? text with
        | some atom => some atom
        | none =>
            if isCode text.toList then some (.text text)
            else some ((real? text).elim (.text text) .real)

/-- The meaning of a scalar. A core tag decides its kind, and a tag of the document's own none. -/
def ofScalar? (tag : Option String) (style : Style) (text : String) : Option Atom :=
  let untagged := if style == .plain then ofPlain? text else some (.text text)
  match tag with
  | none => untagged
  | some tag =>
      if tag == coreTag "bool" then (bool? text).map .bool
      else if tag == coreTag "int" then (whole? text).join
      else if tag == coreTag "float" then (real? text).map .real
      else if tag == coreTag "null" then (if isNullWord text then some .null else none)
      else if tag.startsWith "!" then untagged
      else some (.text text)

end Atom
end AthenaModels.Yaml
