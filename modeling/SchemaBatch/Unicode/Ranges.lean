/-!
# `Unicode.Ranges` — sets of characters, given by ranges

Contents: `Ranges`, closed ranges of code points; `Ranges.has`, membership. The tables beside this
module hold properties of Unicode 17.
-/

namespace SchemaBatch
namespace Unicode

/-- Closed ranges of code points, in ascending order. -/
abbrev Ranges := List (Nat × Nat)

/-- Whether a character lies in one of the ranges. -/
def Ranges.has (ranges : Ranges) (c : Char) : Bool :=
  ranges.any fun range => range.1 ≤ c.toNat && c.toNat ≤ range.2

end Unicode
end SchemaBatch
