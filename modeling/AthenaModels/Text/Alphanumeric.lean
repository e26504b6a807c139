import AthenaModels.Text.AlphanumericTable

namespace AthenaModels.Text

/-- Letters and numbers of any script. -/
def isAlphanumeric (c : Char) : Bool :=
  alphanumericRanges.any fun (first, last) => first ≤ c.toNat && c.toNat ≤ last

end AthenaModels.Text
