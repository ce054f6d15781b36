import SchemaBatch.Text

/-!
# `Catalog.Change` — what a schema statement asks for

The service that applies schema changes reads of a statement no more than it needs: the verb, the
kind of object, the options that guard the change, and names. All else, such as column definitions,
is accepted unread.

Contents: `ObjectKind`; `tokens`; `Change` with `Change.read?`.
-/

namespace SchemaBatch

/-- The kinds of schema objects, in catalog order. -/
inductive ObjectKind where
  | table
  | index
  | view
  | role
  deriving DecidableEq, Repr

namespace ObjectKind

/-- The position of the kind in catalog order. -/
def rank : ObjectKind → Nat
  | .table => 0
  | .index => 1
  | .view => 2
  | .role => 3

/-- The keyword of the kind. -/
def keyword : ObjectKind → String
  | .table => "TABLE"
  | .index => "INDEX"
  | .view => "VIEW"
  | .role => "ROLE"

/-- The name of the kind in running text. -/
def title : ObjectKind → String
  | .table => "Table"
  | .index => "Index"
  | .view => "View"
  | .role => "Role"

/-- The kind of a keyword in any letter case. -/
def ofToken? (token : Text) : Option ObjectKind :=
  [table, index, view, role].find? fun kind => Text.upper token == kind.keyword.toList

end ObjectKind

namespace Catalog

/-! ## Tokens -/

/-- A character, parted from its neighbours by blanks if it is a parenthesis. -/
def spaced (c : Char) : Text := if c == '(' || c == ')' then [' ', c, ' '] else [c]

/-- The words of a statement, in which each parenthesis is a word of its own. -/
def tokens (statement : Text) : List Text := Text.words (statement.flatMap spaced)

/-- Whether a token is a keyword, in any letter case. -/
def isKeyword (keyword : String) (token : Text) : Bool := Text.upper token == keyword.toList

/-- The tokens after a phrase, if they start with it. -/
def afterPhrase? : (phrase : List String) → List Text → Option (List Text)
  | [], tokens => some tokens
  | keyword :: phrase, token :: tokens =>
    if isKeyword keyword token then afterPhrase? phrase tokens else none
  | _ :: _, [] => none

/-- Whether the tokens start with a phrase, and the tokens after it, or all tokens when they do not.
-/
def optionalPhrase (phrase : List String) (tokens : List Text) : Bool × List Text :=
  match afterPhrase? phrase tokens with
  | some rest => (true, rest)
  | none => (false, tokens)

/-- Whether a character encloses a quoted name. -/
def isNameQuote (c : Char) : Bool := c == '\x60' || c == '\x22'

/-- A token without the quotes around it. -/
def unquoted (token : Text) : Text :=
  ((token.dropWhile isNameQuote).reverse.dropWhile isNameQuote).reverse

/-- The name that the first of the tokens is, if it is one. -/
def name? : List Text → Option Text
  | [] => none
  | token :: _ =>
    let name := unquoted token
    if name.isEmpty || name == ['('] then none else some name

/-- The object kind that the first of the tokens is. -/
def kind? : List Text → Option ObjectKind
  | [] => none
  | token :: _ => ObjectKind.ofToken? token

/-! ## Changes -/

/-- What a schema statement asks for. -/
inductive Change where
  /-- Create an object: with `orReplace` one of its name is replaced, with `ifNotExists` it is kept.
  An index is to be on the table `on`, absent when none can be read. -/
  | create (kind : ObjectKind) (name : Text) (orReplace ifNotExists : Bool) (on : Option Text)
  /-- Remove an object: with `ifExists` a missing one is no error. -/
  | drop (kind : ObjectKind) (name : Text) (ifExists : Bool)
  /-- Alter an object, which leaves the catalog as it is. -/
  | alter (kind : ObjectKind) (name : Text)
  /-- Anything that does not touch the catalog. -/
  | other
  deriving DecidableEq, Repr

namespace Change

/-- Whether a token is one of the words that may stand between the verb and the kind. -/
def isModifier (token : Text) : Bool := isKeyword "UNIQUE" token || isKeyword "NULL_FILTERED" token

/-- The table named after the first `ON`. -/
def onTable? (tokens : List Text) : Option Text :=
  name? ((tokens.dropWhile fun token => !isKeyword "ON" token).drop 1)

/-- The change of a statement, given the tokens after `CREATE`. -/
def readCreate? (tokens : List Text) : Option Change := do
  let (orReplace, tokens) := optionalPhrase ["OR", "REPLACE"] tokens
  let tokens := tokens.dropWhile isModifier
  let kind ← kind? tokens
  let (ifNotExists, tokens) := optionalPhrase ["IF", "NOT", "EXISTS"] (tokens.drop 1)
  let name ← name? tokens
  some (.create kind name orReplace ifNotExists (onTable? tokens))

/-- The change of a statement, given the tokens after `DROP`. -/
def readDrop? (tokens : List Text) : Option Change := do
  let kind ← kind? tokens
  let (ifExists, tokens) := optionalPhrase ["IF", "EXISTS"] (tokens.drop 1)
  let name ← name? tokens
  some (.drop kind name ifExists)

/-- The change of a statement, given the tokens after `ALTER`. What is altered may be something that
the catalog does not hold, such as the database. -/
def readAlter? (tokens : List Text) : Option Change :=
  match kind? tokens with
  | none => some .other
  | some kind => (name? (tokens.drop 1)).map fun name => .alter kind name

/-- The change that a list of tokens asks for, `none` when it cannot be read. -/
def ofTokens? : List Text → Option Change
  | [] => none
  | verb :: tokens =>
    if isKeyword "CREATE" verb then readCreate? tokens
    else if isKeyword "DROP" verb then readDrop? tokens
    else if isKeyword "ALTER" verb then readAlter? tokens
    else some .other

/-- The change that a statement asks for, `none` when it cannot be read. -/
def read? (statement : Text) : Option Change := ofTokens? (tokens statement)

end Change
end Catalog
end SchemaBatch
