import AthenaModels.Number.Numeral

/-! Finite, non-negative numbers of the IEEE 754 format binary64, in exact arithmetic. -/

namespace AthenaModels

structure Binary64 where
  mantissa : Nat
  exponent : Int
deriving DecidableEq, Repr

namespace Binary64

def roundDiv (num den : Nat) : Nat :=
  let quotient := num / den
  let twice := 2 * (num % den)
  if twice < den then quotient
  else if den < twice then quotient + 1
  else quotient + quotient % 2

/-- Numerator and denominator of `num / den / 2 ^ exponent`. -/
def scale (num den : Nat) (exponent : Int) : Nat × Nat :=
  if 0 ≤ exponent then (num, den * Nat.pow 2 exponent.toNat)
  else (num * Nat.pow 2 (-exponent).toNat, den)

/-- The nearest number of the format, a half to the even mantissa; none beyond its range. -/
def ofRat? (num den : Nat) : Option Binary64 :=
  if num = 0 then some ⟨0, 0⟩
  else
    let guess : Int := (num.log2 : Int) - den.log2
    let (n, d) := scale num den guess
    let top := if d ≤ n then guess else guess - 1
    let exponent := max (top - 52) (-1074)
    let (n, d) := scale num den exponent
    let mantissa := roundDiv n d
    let result : Binary64 :=
      if mantissa = Nat.pow 2 53 then ⟨Nat.pow 2 52, exponent + 1⟩ else ⟨mantissa, exponent⟩
    if result.exponent ≤ 971 then some result else none

def toRat (x : Binary64) : Nat × Nat :=
  scale x.mantissa 1 (-x.exponent)

def toFixed (places : Nat) (num den : Nat) : String :=
  let units := roundDiv (num * Nat.pow 10 places) den
  toString (units / Nat.pow 10 places) ++ "." ++ Numeral.padded places (units % Nat.pow 10 places)

def toBits (x : Binary64) : Nat :=
  if x.mantissa < Nat.pow 2 52 then x.mantissa
  else (x.exponent + 1075).toNat * Nat.pow 2 52 + (x.mantissa - Nat.pow 2 52)

end Binary64
end AthenaModels
