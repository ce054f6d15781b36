import SchemaBatch.Text
import SchemaBatch.Unicode.Marks
import SchemaBatch.Unicode.Unassigned

/-!
# `Text.Quoted` — a text in quotes, for messages

Contents: `Text.quoted`, which puts a text in double quotes and writes quotes, backslashes and
characters that cannot be seen as escapes.
-/

namespace SchemaBatch
namespace Text

open Unicode

/-- Whether a character controls the device. -/
def isControl (c : Char) : Bool := c.toNat < 0x20 || (0x7F ≤ c.toNat && c.toNat < 0xA0)

/-- Whether a character has no meaning that all agree on: it is for private use. -/
def isPrivate (c : Char) : Bool :=
  (0xE000 ≤ c.toNat && c.toNat ≤ 0xF8FF) || 0xF0000 ≤ c.toNat

/-- Whether a character cannot be told from its looks: it controls the device or the layout, is a
blank other than the space, is drawn over the one before it or not at all, is for private use, or is
no character. -/
def isUnseen (c : Char) : Bool :=
  isControl c || (isBlank c && c != ' ') || formats.has c || extenders.has c || ignorable.has c ||
    isPrivate c || unassigned.has c

/-- A character between quotes. One that cannot be seen is written by its number, unless it has an
escape of its own. -/
def quotedChar (c : Char) : Text :=
  if c == '\x22' || c == '\\' then ['\\', c]
  else if c == '\n' then ['\\', 'n']
  else if c == '\x0d' then ['\\', 'r']
  else if c == '\t' then ['\\', 't']
  else if c == '\x00' then ['\\', '0']
  else if isUnseen c then "\\u\x7b".toList ++ Nat.toDigits 16 c.toNat ++ ['\x7d']
  else [c]

/-- A text in double quotes. -/
def quoted (s : String) : String :=
  string ('\x22' :: s.toList.flatMap quotedChar ++ ['\x22'])

end Text
end SchemaBatch
