import SchemaBatch.Text

/-!
# `Decimal` — the decimal text of a floating-point number

A finite number is `m · 2^q`, for a natural and an integer that its bits give. Its text is the
shortest decimal that reads back to the same number, and of two such decimals the nearer one.

Contents: `Binary`, the decoded number; `neighbours`, the decimals of a given place next to it;
`shortest`; `Decimal.text`, the layout; `ofLiteral`, which reads a number as JSON writes it.
-/

namespace SchemaBatch
namespace Decimal

/-- The absolute value of a finite number, `significand · 2^exponent`. -/
structure Binary where
  significand : Nat
  exponent : Int

/-- The number that the bits of a finite float encode. -/
def Binary.ofBits (bits : UInt64) : Binary :=
  let exponent := ((bits >>> 52) &&& 0x7FF).toNat
  let fraction := (bits &&& 0xFFFFFFFFFFFFF).toNat
  if exponent == 0 then ⟨fraction, -1074⟩ else ⟨0x10000000000000 + fraction, (exponent : Int) - 1075⟩

/-- The number as a fraction. -/
def Binary.fraction (x : Binary) : Nat × Nat :=
  (x.significand * Nat.pow 2 x.exponent.toNat, Nat.pow 2 (-x.exponent).toNat)

/-- A decimal, `digits · 10^exponent`. -/
structure Digits where
  digits : Nat
  exponent : Int

/-- The float that a decimal reads as. -/
def Digits.read (d : Digits) : Float :=
  Float.ofScientific d.digits (d.exponent < 0) d.exponent.natAbs

/-- The multiples of `10^exponent` on both sides of a fraction, the nearer one first. When both are
as near, the even one is first. -/
def neighbours (fraction : Nat × Nat) (exponent : Int) : List Digits :=
  let numerator := fraction.1 * Nat.pow 10 (-exponent).toNat
  let denominator := fraction.2 * Nat.pow 10 exponent.toNat
  let below := numerator / denominator
  let excess := 2 * (numerator % denominator)
  let pair : List Digits := [⟨below, exponent⟩, ⟨below + 1, exponent⟩]
  if excess < denominator || (excess == denominator && below % 2 == 0) then pair else pair.reverse

/-- The position of the leading digit of a positive fraction, up to one place. -/
def magnitude (fraction : Nat × Nat) : Int :=
  ((Nat.toDigits 10 fraction.1).length : Int) - (Nat.toDigits 10 fraction.2).length

/-- The coarsest decimal next to a positive fraction that reads back to the float. Nineteen steps
down from the leading digit go beyond the precision of a float. -/
def shortest (x : Float) (fraction : Nat × Nat) : Digits :=
  let candidates :=
    (List.range 19).flatMap fun (i : Nat) => neighbours fraction (magnitude fraction + 1 - i)
  (candidates.find? fun d => d.read.toBits == x.toBits).getD ⟨fraction.1 / fraction.2, 0⟩

/-- Whether an exponent of the leading digit is written with the digits in place. -/
def isPositional (leading : Int) : Bool := -5 ≤ leading && leading < 16

/-- The text of a positive decimal: positional with a point, or one digit before the point and an
exponent. -/
def Digits.text (d : Digits) : Text :=
  let digits := Text.numeral d.digits
  let leading := (digits.length : Int) + d.exponent - 1
  if isPositional leading then
    if 0 ≤ d.exponent then digits ++ List.replicate d.exponent.toNat '0' ++ ['.', '0']
    else if leading < 0 then
      '0' :: '.' :: List.replicate (-leading - 1).toNat '0' ++ digits
    else digits.take (leading + 1).toNat ++ '.' :: digits.drop (leading + 1).toNat
  else
    let exponent := (if leading < 0 then ['-'] else []) ++ Text.numeral leading.natAbs
    digits.take 1 ++ (if digits.length ≤ 1 then [] else '.' :: digits.drop 1) ++ 'e' :: exponent

/-- The text of a finite float. -/
def text (x : Float) : Text :=
  let bits := x.toBits
  let magnitudeBits := bits &&& 0x7FFFFFFFFFFFFFFF
  let sign : Text := if bits == magnitudeBits then [] else ['-']
  if magnitudeBits == 0 then sign ++ ['0', '.', '0']
  else
    let positive := Float.ofBits magnitudeBits
    sign ++ (shortest positive (Binary.ofBits magnitudeBits).fraction).text

/-! ## Reading -/

/-- The integer of an optional sign and digits. -/
def signedNat : Text → Int
  | '-' :: digits => -(Text.toNat digits : Int)
  | '+' :: digits => Text.toNat digits
  | digits => Text.toNat digits

/-- The float nearest to a number literal of a JSON text. -/
def ofLiteral (literal : Text) : Float :=
  let unsigned := literal.dropWhile (· == '-')
  let mantissa := unsigned.takeWhile fun c => c != 'e' && c != 'E'
  let exponent := signedNat ((unsigned.drop mantissa.length).drop 1)
  let whole := mantissa.takeWhile (· != '.')
  let fraction := (mantissa.drop whole.length).drop 1
  let place := exponent - fraction.length
  let value := Float.ofScientific (Text.toNat (whole ++ fraction)) (place < 0) place.natAbs
  if unsigned.length < literal.length then -value else value

end Decimal
end SchemaBatch
