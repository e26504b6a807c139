import AthenaModels.Number.Numeral
import AthenaModels.Partition.Basic

namespace AthenaModels

namespace PathName

/-- Controls, and the characters with a meaning in paths or in patterns for them. -/
def isEscaped (c : Char) : Bool :=
  Text.isControl c || "\x22#%\x27*/:=?\x5c\x7b[]^".toList.contains c

def escapeChar (c : Char) : List Char :=
  (String.utf8EncodeChar c).flatMap fun byte => '%' :: Numeral.upperHex 2 byte.toNat

def escape (name : String) : String :=
  String.ofList (name.toList.flatMap fun c => if isEscaped c then escapeChar c else [c])

end PathName

def Partition.path (p : Partition) : String :=
  "/".intercalate (p.pairs.map fun (column, value) =>
    PathName.escape column ++ "=" ++ PathName.escape (valueText value))

end AthenaModels
