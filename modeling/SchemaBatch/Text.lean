/-!
# `Text` — characters, blanks, words and letter case

Statements and names are handled as `Text`, a list of characters, so that scanning is recursion on
the data.

Contents: `isBlank` (the blanks of Unicode), trimming, `cut` (the pieces between separators),
`joined` and `words`, ASCII letter case, and decimal numerals. `cut_ne_nil` says that even an empty
list has a piece.
-/

namespace SchemaBatch

/-- A piece of text as the list of its characters. -/
abbrev Text := List Char

/-- The characters with the Unicode property `White_Space`. -/
def isBlank (c : Char) : Bool :=
  let n := c.toNat
  (0x09 ≤ n && n ≤ 0x0D) || n == 0x20 || n == 0x85 || n == 0xA0 || n == 0x1680 ||
    (0x2000 ≤ n && n ≤ 0x200A) || n == 0x2028 || n == 0x2029 || n == 0x202F || n == 0x205F ||
    n == 0x3000

namespace Text

/-! ## Trimming -/

/-- The text without its leading blanks. -/
def trimStart (s : Text) : Text := s.dropWhile isBlank

/-- The text without its trailing blanks. -/
def trimEnd (s : Text) : Text := (s.reverse.dropWhile isBlank).reverse

/-- The text without its leading and trailing blanks. -/
def trim (s : Text) : Text := trimEnd (trimStart s)

/-! ## Pieces between separators -/

/-- The pieces of `xs` between the elements that satisfy `p`, empty pieces included: one piece more
than there are such elements. -/
def cut {α : Type} (p : α → Bool) : List α → List (List α)
  | [] => [[]]
  | x :: xs =>
    if p x then [] :: cut p xs
    else match cut p xs with
      | [] => [[x]]
      | piece :: pieces => (x :: piece) :: pieces

/-- The pieces with a separator between each two. -/
def joined (separator : Text) (pieces : List Text) : Text := (pieces.intersperse separator).flatten

/-- The maximal runs of characters that are not blank. -/
def words (s : Text) : List Text := (cut isBlank s).filter (!·.isEmpty)

/-! ## ASCII letter case -/

/-- The text with its ASCII letters in upper case; all else stays. -/
def upper (s : Text) : Text := s.map Char.toUpper

/-- Whether two texts are equal up to the case of ASCII letters. -/
def sameLetters (s t : Text) : Bool := upper s == upper t

/-! ## Decimal numerals -/

/-- The largest unsigned number of 64 bits. -/
def maxWord : Nat := 0xFFFFFFFFFFFFFFFF

/-- The number that a list of ASCII digits denotes; the empty list denotes zero. -/
def toNat (digits : Text) : Nat :=
  digits.foldl (fun n c => 10 * n + (c.toNat - '0'.toNat)) 0

/-- The number a text denotes, if it is a nonempty run of ASCII digits within 64 bits. -/
def word? (s : Text) : Option Nat :=
  if !s.isEmpty && s.all Char.isDigit && toNat s ≤ maxWord then some (toNat s) else none

/-- The decimal digits of a number, without leading zeros. -/
def numeral (n : Nat) : Text := Nat.toDigits 10 n

/-- The least significant `width` decimal digits of `n`, with leading zeros. -/
def padded : (width : Nat) → (n : Nat) → Text
  | 0, _ => []
  | width + 1, n => padded width (n / 10) ++ [Nat.digitChar (n % 10)]

/-- The text as a string, for messages and output. -/
def string (s : Text) : String := String.ofList s

/-! ## Laws -/

theorem cut_ne_nil {α : Type} (p : α → Bool) (xs : List α) : cut p xs ≠ [] := by
  cases xs with
  | nil => simp [cut]
  | cons x xs =>
    unfold cut
    split
    · simp
    · split <;> simp

end Text
end SchemaBatch
