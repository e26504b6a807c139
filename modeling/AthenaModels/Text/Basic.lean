namespace AthenaModels.Text

/-- The characters with the Unicode property White_Space. -/
def isBlank (c : Char) : Bool :=
  let n := c.toNat
  (9 ≤ n && n ≤ 13) || n == 32 || n == 0x85 || n == 0xA0 || n == 0x1680 ||
    (0x2000 ≤ n && n ≤ 0x200A) || n == 0x2028 || n == 0x2029 || n == 0x202F ||
    n == 0x205F || n == 0x3000

/-- The controls of the general category Cc. -/
def isControl (c : Char) : Bool :=
  c.toNat < 32 || (127 ≤ c.toNat && c.toNat < 160)

def trimEnd (text : String) : String :=
  String.ofList (text.toList.reverse.dropWhile isBlank).reverse

def trim (text : String) : String :=
  String.ofList ((text.toList.dropWhile isBlank).reverse.dropWhile isBlank).reverse

def isBlankText (text : String) : Bool :=
  text.toList.all isBlank

def split (separator : Char) (text : String) : List String :=
  (text.toList.splitOn separator).map String.ofList

abbrev join (separator : String) (parts : List String) : String := separator.intercalate parts

abbrev rest? (stem text : List Char) : Option (List Char) := stem.isPrefixOf? text

def startsWith (stem text : String) : Bool :=
  stem.toList.isPrefixOf text.toList

theorem startsWith_iff {stem text : String} :
    startsWith stem text = true ↔ stem.toList <+: text.toList :=
  List.isPrefixOf_iff_prefix

end AthenaModels.Text
