import SchemaBatch.Text

/-!
# `Service.Identifier` — identifiers of 128 bits

Contents: `hexadecimal`, the digits of a number; `identifierOf`, the text of an identifier.
-/

namespace SchemaBatch
namespace Service

/-- The least significant `width` hexadecimal digits of `n`, with leading zeros. -/
def hexadecimal : (width : Nat) → (n : Nat) → Text
  | 0, _ => []
  | width + 1, n => hexadecimal width (n / 16) ++ [Nat.digitChar (n % 16)]

/-- The digit that says how the bits of an identifier are laid out, which keeps two of them. -/
def layoutDigit (n : Nat) : Char := Nat.digitChar (8 + n % 4)

/-- The text of the identifier made of 122 random bits: five groups of hexadecimal digits, of which
two digits are fixed to say that the others are random. -/
def identifierOf (bits : Nat) : String :=
  let groups :=
    [hexadecimal 8 bits, hexadecimal 4 (bits >>> 32), '4' :: hexadecimal 3 (bits >>> 48),
      layoutDigit (bits >>> 60) :: hexadecimal 3 (bits >>> 62), hexadecimal 12 (bits >>> 74)]
  Text.string (Text.joined ['-'] groups)

end Service
end SchemaBatch
