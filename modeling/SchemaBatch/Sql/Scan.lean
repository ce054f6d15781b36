import SchemaBatch.Text

/-!
# `Sql.Scan` — quotes, comments and separators of SQL text

`label` gives each character of a text its `Role`: it tells quoted text from comments, and the
semicolons that separate statements from those that do not. The two readings of a text are views of
the one list of labels: `strip` leaves the comments out, `split` cuts at the separators.

Contents: `Role`, `Region`, `label`; `bare`, `tidy` and `strip`; `pieces` and `split`.
-/

namespace SchemaBatch
namespace Sql

/-- What a character is for in SQL text. -/
inductive Role where
  /-- Part of the statement, outside quotes. -/
  | code
  /-- A semicolon between statements. -/
  | separator
  /-- A mark that opens or closes a quoted token. -/
  | quote
  /-- A character inside a quoted token. -/
  | quoted
  /-- Part of a comment. -/
  | comment
  /-- The last character of a block comment, which leaves a space in its place. -/
  | gap
  deriving DecidableEq, Repr

/-- Where the scan stands before a character. -/
inductive Region where
  | outside
  /-- Inside a token opened by this mark. -/
  | inQuote (mark : Char)
  | lineComment
  | blockComment
  deriving DecidableEq, Repr

/-- The marks that quote: single quote, double quote and backtick. -/
def isQuoteMark (c : Char) : Bool := c == '\x27' || c == '\x22' || c == '\x60'

/-- The characters of a text with their roles, when the scan starts in a region; `none` when a block
comment is left open. A backslash takes the next character into the quoted token, and a token that
is left open reaches to the end. -/
def label : Region → Text → Option (List (Char × Role))
  | .blockComment, [] => none
  | _, [] => some []
  | .blockComment, '*' :: '/' :: rest =>
    (label .outside rest).map fun labels => ('*', .comment) :: ('/', .gap) :: labels
  | .blockComment, c :: rest => (label .blockComment rest).map ((c, .comment) :: ·)
  | .lineComment, c :: rest =>
    if c == '\n' then (label .outside rest).map ((c, .code) :: ·)
    else (label .lineComment rest).map ((c, .comment) :: ·)
  | .inQuote mark, '\\' :: c :: rest =>
    (label (.inQuote mark) rest).map fun labels => ('\\', .quoted) :: (c, .quoted) :: labels
  | .inQuote mark, c :: rest =>
    if c == mark then (label .outside rest).map ((c, .quote) :: ·)
    else (label (.inQuote mark) rest).map ((c, .quoted) :: ·)
  | .outside, '-' :: '-' :: rest =>
    (label .lineComment rest).map fun labels => ('-', .comment) :: ('-', .comment) :: labels
  | .outside, '/' :: '*' :: rest =>
    (label .blockComment rest).map fun labels => ('/', .comment) :: ('*', .comment) :: labels
  | .outside, c :: rest =>
    if isQuoteMark c then (label (.inQuote c) rest).map ((c, .quote) :: ·)
    else if c == '#' then (label .lineComment rest).map ((c, .comment) :: ·)
    else if c == ';' then (label .outside rest).map ((c, .separator) :: ·)
    else (label .outside rest).map ((c, .code) :: ·)

/-! ## Without comments -/

/-- What is left of one character when comments are taken out. -/
def keep : Char × Role → Option Char
  | (_, .comment) => none
  | (_, .gap) => some ' '
  | (c, _) => some c

/-- The text without its comments, a space for each block comment. -/
def bare (labels : List (Char × Role)) : Text := labels.filterMap keep

/-- The text without a final semicolon. -/
def dropTerminator (s : Text) : Text := if s.getLast? == some ';' then s.dropLast else s

/-- The text without blanks at its ends and without one final semicolon and the blanks before it. -/
def tidy (s : Text) : Text := Text.trimEnd (dropTerminator (Text.trim s))

/-- The statement that a text holds: its comments taken out, then tidied. -/
def strip (s : Text) : Option Text := (label .outside s).map fun labels => tidy (bare labels)

/-! ## Statement by statement -/

/-- Whether a character separates statements. -/
def isSeparator (labelled : Char × Role) : Bool := labelled.2 == .separator

/-- The labelled text between the separators. -/
def pieces (labels : List (Char × Role)) : List (List (Char × Role)) := Text.cut isSeparator labels

/-- The statements of a script as they are written, comments included. A piece that holds only
blanks and comments is no statement. -/
def split (script : Text) : Option (List Text) :=
  (label .outside script).map fun labels =>
    ((pieces labels).filter fun piece => !(tidy (bare piece)).isEmpty).map
      fun piece => Text.trim (piece.map Prod.fst)

end Sql
end SchemaBatch
