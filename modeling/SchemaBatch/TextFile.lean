import SchemaBatch.Text

/-!
# `TextFile` — the content of a file that should be text

Contents: `ReadFault`, the ways in which reading a file fails, and `TextFile`, a path with what
reading it gave.
-/

namespace SchemaBatch

/-- Why a file could not be read as text. -/
inductive ReadFault where
  | missing
  /-- The bytes are not valid UTF-8. -/
  | notText
  deriving DecidableEq, Repr

/-- The message of the operating system. -/
def ReadFault.message : ReadFault → String
  | .missing => "No such file or directory (os error 2)"
  | .notText => "stream did not contain valid UTF-8"

/-- A file by its path, and its text or the reason why there is none. -/
structure TextFile where
  path : Text
  content : Except ReadFault Text

/-- The text of a list of bytes. -/
def decodeBytes (bytes : ByteArray) : Except ReadFault Text :=
  match String.fromUTF8? bytes with
  | some s => .ok s.toList
  | none => .error .notText

end SchemaBatch
