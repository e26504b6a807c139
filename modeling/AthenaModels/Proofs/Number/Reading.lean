import AthenaModels.Number.Numeral
import Mathlib.Tactic.Common

namespace AthenaModels.Numeral

variable {limit n : Nat} {text : String} {digits : List Char}

structure Decimal (digits : List Char) (n : Nat) : Prop where
  some : digits ≠ []
  digit : ∀ c ∈ digits, c.isDigit = true
  value : Nat.ofDigitChars 10 digits 0 = n

inductive Spells (limit : Nat) (text : String) (n : Nat) : Prop
  | bare (decimal : Decimal text.toList n) (small : n < limit)
  | signed (digits : List Char) (written : text.toList = '+' :: digits)
      (decimal : Decimal digits n) (small : n < limit)

theorem digit?_ten (c : Char) :
    digit? 10 c = if c.isDigit then some (c.toNat - '0'.toNat) else none := by
  have zero : '0'.toNat = 48 := rfl
  have nine : '9'.toNat = 57 := rfl
  have digit : c.isDigit = true ↔ '0' ≤ c ∧ c ≤ '9' := by
    rw [Char.isDigit_iff_toNat, Char.le_def, Char.le_def, UInt32.le_iff_toNat_le,
      UInt32.le_iff_toNat_le]
    rfl
  rw [digit?]
  by_cases isDigit : '0' ≤ c ∧ c ≤ '9'
  · have bound := (Char.isDigit_iff_toNat.mp (digit.mpr isDigit)).2
    rw [if_pos isDigit, if_pos (digit.mpr isDigit), Option.filter_some, zero]
    simp only [decide_eq_true_eq]
    rw [if_pos (by omega)]
  · rw [if_neg isDigit, if_neg (mt digit.mp isDigit)]
    split
    · rename_i lower
      have bound : 97 ≤ c.toNat := by
        simpa using UInt32.le_iff_toNat_le.mp (Char.le_def.mp lower.1)
      simp only [Option.filter_some, decide_eq_true_eq]
      rw [if_neg (by omega)]
    · split
      · rename_i upper
        have bound : 65 ≤ c.toNat := by
          simpa using UInt32.le_iff_toNat_le.mp (Char.le_def.mp upper.1)
        simp only [Option.filter_some, decide_eq_true_eq]
        rw [if_neg (by omega)]
      · rfl

theorem digits?_ten (total : Nat) :
    digits? 10 total digits =
      if digits.all Char.isDigit then some (Nat.ofDigitChars 10 digits total) else none := by
  induction digits generalizing total with
  | nil => rfl
  | cons c digits ih =>
      rw [digits?, digit?_ten, List.all_cons]
      cases digit : c.isDigit with
      | false => rfl
      | true =>
          rw [Bool.true_and, Nat.ofDigitChars_cons, Nat.mul_comm 10 total]
          exact ih _

theorem natural?_ten_iff : natural? 10 digits = some n ↔ Decimal digits n := by
  cases digits with
  | nil => exact ⟨nofun, fun decimal => absurd rfl decimal.some⟩
  | cons c digits =>
      have read : natural? 10 (c :: digits) = digits? 10 0 (c :: digits) := rfl
      rw [read, digits?_ten]
      constructor
      · intro made
        split at made
        · rename_i digit
          exact ⟨by simp, List.all_eq_true.mp digit, by simpa using made⟩
        · contradiction
      · rintro ⟨-, digit, rfl⟩
        rw [if_pos (List.all_eq_true.mpr digit)]

theorem below?_iff : below? limit text = some n ↔ Spells limit text n := by
  rw [below?]
  split
  · rename_i digits written
    simp only [Option.filter_eq_some_iff, natural?_ten_iff, decide_eq_true_eq]
    constructor
    · rintro ⟨decimal, small⟩
      exact .signed digits written decimal small
    · rintro (⟨decimal, small⟩ | ⟨digits', written', decimal, small⟩)
      · have plus : '+'.isDigit = true := decimal.digit '+' (by simp [written])
        exact absurd plus (by decide)
      · obtain rfl : digits' = digits := by simpa [written] using written'.symm
        exact ⟨decimal, small⟩
  · rename_i unsigned
    simp only [Option.filter_eq_some_iff, natural?_ten_iff, decide_eq_true_eq]
    constructor
    · rintro ⟨decimal, small⟩
      exact .bare decimal small
    · rintro (⟨decimal, small⟩ | ⟨digits, written, -, -⟩)
      · exact ⟨decimal, small⟩
      · exact absurd written (unsigned digits)

theorem below?_eq_none_iff : below? limit text = none ↔ ∀ n, ¬ Spells limit text n := by
  rw [Option.eq_none_iff_forall_ne_some]
  exact forall_congr' fun n => not_congr below?_iff

end AthenaModels.Numeral
