namespace AthenaModels.Numeral

def digit? (base : Nat) (c : Char) : Option Nat :=
  let value :=
    if '0' ≤ c ∧ c ≤ '9' then some (c.toNat - 48)
    else if 'a' ≤ c ∧ c ≤ 'f' then some (c.toNat - 87)
    else if 'A' ≤ c ∧ c ≤ 'F' then some (c.toNat - 55)
    else none
  value.filter (· < base)

def digits? (base : Nat) : Nat → List Char → Option Nat
  | total, [] => some total
  | total, c :: rest => do
      let value ← digit? base c
      digits? base (total * base + value) rest

def natural? (base : Nat) : List Char → Option Nat
  | [] => none
  | digits => digits? base 0 digits

/-- A decimal number below `limit`; a plus sign may precede it. -/
def below? (limit : Nat) (text : String) : Option Nat :=
  let value :=
    match text.toList with
    | '+' :: digits => natural? 10 digits
    | digits => natural? 10 digits
  value.filter (· < limit)

def signed? (bits : Nat) (text : String) : Option Int :=
  let value : Option Int :=
    match text.toList with
    | '-' :: digits => (natural? 10 digits).map fun n => -(n : Int)
    | '+' :: digits => (natural? 10 digits).map fun n => (n : Int)
    | digits => (natural? 10 digits).map fun n => (n : Int)
  value.filter fun n => -Int.pow 2 (bits - 1) ≤ n && n < Int.pow 2 (bits - 1)

def bool? : String → Option Bool
  | "true" => some true
  | "false" => some false
  | _ => none

def padded (width n : Nat) : String :=
  let digits := Nat.toDigits 10 n
  String.ofList (List.replicate (width - digits.length) '0' ++ digits)

def upperHex (width n : Nat) : List Char :=
  let digits := (Nat.toDigits 16 n).map Char.toUpper
  List.replicate (width - digits.length) '0' ++ digits

end AthenaModels.Numeral
