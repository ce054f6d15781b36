import SchemaBatch.Text

/-!
# `Sql.Timeout` — the value of `SET STATEMENT_TIMEOUT`

The statement reads `SET STATEMENT_TIMEOUT = '<n><unit>'` or `… = NULL`, with `TO` allowed for the
equals sign, a unit of `ms`, `s` or `m`, and blanks between the parts. Timeouts are counted in
milliseconds.

Contents: `Timeout.Fault`, the ways in which a value is refused, and `Timeout.read`, which takes the
text from the name of the setting on.
-/

namespace SchemaBatch
namespace Sql
namespace Timeout

/-- Why a timeout is refused. -/
inductive Fault where
  /-- The text does not have the form of a timeout, or the timeout has more than 64 bits. -/
  | malformed
  /-- A timeout of no time at all. -/
  | zero
  deriving DecidableEq, Repr

/-- The name of the setting. -/
def settingName : Text := "STATEMENT_TIMEOUT".toList

/-- The text after an equals sign or the word `TO`. -/
def afterSign : Text → Option Text
  | '=' :: rest => some rest
  | t :: o :: rest => if Text.sameLetters [t, o] ['T', 'O'] then some rest else none
  | _ => none

/-- The text between single quotes. -/
def unquoted : Text → Option Text
  | '\x27' :: rest => if rest.getLast? == some '\x27' then some rest.dropLast else none
  | _ => none

/-- The milliseconds of an amount in a unit. Minutes have to fit 64 bits when counted in seconds. -/
def inUnit (amount : Nat) (unit : Text) : Option Nat :=
  if unit = ['m', 's'] then some amount
  else if unit = ['s'] then some (amount * 1000)
  else if unit = ['m'] then
    if amount * 60 ≤ Text.maxWord then some (amount * 60 * 1000) else none
  else none

/-- The milliseconds of an amount with its unit. -/
def amount (s : Text) : Option Nat := do
  inUnit (← Text.word? (s.takeWhile Char.isDigit)) (Text.trim (s.dropWhile Char.isDigit))

/-- The value that follows the name of the setting: `none` clears the timeout. -/
def value (s : Text) : Except Fault (Option Nat) :=
  match afterSign (Text.trimStart s) with
  | none => .error .malformed
  | some rest =>
    let rest := Text.trim rest
    if Text.sameLetters rest "NULL".toList then .ok none
    else match (unquoted rest).bind fun inner => amount (Text.trim inner) with
      | none => .error .malformed
      | some 0 => .error .zero
      | some (n + 1) => .ok (some (n + 1))

/-- Whether a statement, as its upper-case words, sets the timeout. -/
def isSetting : List Text → Bool
  | first :: second :: _ => first == "SET".toList && settingName.isPrefixOf second
  | _ => false

/-- The value that a statement sets, given the statement without comments. It starts with `SET`, and
the name of the setting comes next. -/
def read (stripped : Text) : Except Fault (Option Nat) :=
  value ((Text.trimStart (stripped.drop 3)).drop settingName.length)

end Timeout
end Sql
end SchemaBatch
