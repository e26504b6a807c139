import AthenaModels.Text.CaseTable

namespace AthenaModels.Text

/-- The characters with the Unicode property Uppercase. -/
def isUppercase (c : Char) : Bool :=
  uppercaseRanges.any fun (first, last, stride) =>
    first ≤ c.toNat && c.toNat ≤ last && (c.toNat - first) % stride == 0

/-- The full upper-case form of a character: one character or several. -/
def upperChar (c : Char) : List Char :=
  match upperExpansions.find? (·.1 == c.toNat) with
  | some (_, codes) => codes.map Char.ofNat
  | none =>
      let shift := upperShifts.find? fun (first, last, stride, _) =>
        first ≤ c.toNat && c.toNat ≤ last && (c.toNat - first) % stride == 0
      match shift with
      | some (_, _, _, distance) => [Char.ofNat (c.toNat + distance).toNat]
      | none => [c]

def upper (text : String) : String :=
  String.ofList (text.toList.flatMap upperChar)

def asciiUpper (text : String) : String :=
  text.map Char.toUpper

end AthenaModels.Text
