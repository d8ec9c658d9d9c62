/-!
# Ranges of characters

A class of characters is a list of ranges of code points, both ends included.
-/

namespace SdlPhp.Text

/-- Ranges of code points, both ends included. -/
abbrev Ranges := List (Nat × Nat)

def Ranges.has (rs : Ranges) (c : Char) : Bool :=
  rs.any fun r => r.1 ≤ c.toNat && c.toNat ≤ r.2

end SdlPhp.Text
