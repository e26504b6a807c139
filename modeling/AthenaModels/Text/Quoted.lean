import AthenaModels.Text.Basic
import AthenaModels.Text.PrintTable

/-! Lists of texts in quotes, with everything escaped that cannot be told apart when printed. -/

namespace AthenaModels.Text

/-- A character that is printed as it is: neither invisible nor joined to the one before it. -/
def isPrintable (c : Char) : Bool :=
  !unprintableRanges.any (fun (first, last) => first ≤ c.toNat && c.toNat ≤ last) &&
    !graphemeExtendRanges.any (fun (first, last) => first ≤ c.toNat && c.toNat ≤ last)

def lowerHex (n : Nat) : String :=
  String.ofList (Nat.toDigits 16 n)

def quotedChar (c : Char) : String :=
  match c with
  | '\x00' => "\\0"
  | '\t' => "\\t"
  | '\r' => "\\r"
  | '\n' => "\\n"
  | '\x22' => "\\\""
  | '\x5c' => "\\\\"
  | c => if isPrintable c then c.toString else "\\u\x7b" ++ lowerHex c.toNat ++ "\x7d"

def quoted (text : String) : String :=
  "\"" ++ String.join (text.toList.map quotedChar) ++ "\""

def quotedList (texts : List String) : String :=
  "[" ++ ", ".intercalate (texts.map quoted) ++ "]"

end AthenaModels.Text
