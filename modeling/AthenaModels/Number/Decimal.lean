import AthenaModels.Number.Binary64

namespace AthenaModels

structure Decimal where
  negative : Bool
  mantissa : Nat
  exponent : Int

namespace Decimal

def isDigit (c : Char) : Bool := '0' ≤ c && c ≤ '9'

def exponent? (text : List Char) : Option Int :=
  let value? : List Char → Option Int
    | '-' :: digits => (Numeral.natural? 10 digits).map fun n => -(n : Int)
    | '+' :: digits => (Numeral.natural? 10 digits).map fun n => (n : Int)
    | digits => (Numeral.natural? 10 digits).map fun n => (n : Int)
  match text with
  | [] => some 0
  | 'e' :: rest => value? rest
  | 'E' :: rest => value? rest
  | _ => none

def unsigned? (negative : Bool) (text : List Char) : Option Decimal := do
  let whole := text.takeWhile isDigit
  let (fraction, rest) :=
    match text.dropWhile isDigit with
    | '.' :: rest => (rest.takeWhile isDigit, rest.dropWhile isDigit)
    | rest => ([], rest)
  let mantissa ← Numeral.natural? 10 (whole ++ fraction)
  some ⟨negative, mantissa, (← exponent? rest) - fraction.length⟩

def ofText? (text : List Char) : Option Decimal :=
  match text with
  | '-' :: rest => unsigned? true rest
  | '+' :: rest => unsigned? false rest
  | rest => unsigned? false rest

def nearest? (x : Decimal) : Option Binary64 :=
  let digits : Int := (Nat.toDigits 10 x.mantissa).length
  if x.mantissa = 0 || x.exponent + digits < -400 then some ⟨0, 0⟩
  else if 400 < x.exponent + digits then none
  else if 0 ≤ x.exponent then Binary64.ofRat? (x.mantissa * Nat.pow 10 x.exponent.toNat) 1
  else Binary64.ofRat? x.mantissa (Nat.pow 10 (-x.exponent).toNat)

end Decimal
end AthenaModels
