import SchemaBatch.Text

/-!
# `Json` — the JSON values, their reader and their printers

Contents: the value type `Json`; `Json.parse`, the reader of RFC 8259 texts; `Json.compact` and
`Json.pretty`, the printers; and the small accessors with which a record is read off a value.

Numbers keep the digits they were written with, because which literals count as an integer is for
the reader of a field to say. A string keeps `none` when one of its escapes names a surrogate that
has no partner: such a string is well formed and may be skipped, but it is no text.
-/

namespace SchemaBatch

/-- A JSON value. -/
inductive Json where
  | null
  | bool (value : Bool)
  /-- A number, as written. -/
  | number (literal : Text)
  /-- A string, `none` when it holds an unpaired surrogate. -/
  | string (value : Option Text)
  | array (items : List Json)
  /-- The members in the order in which they are written, repeated keys included. -/
  | object (members : List (Option Text × Json))
  deriving Inhabited

namespace Json

/-! ## Building values -/

/-- The value of a text. -/
def text (s : Text) : Json := .string (some s)

/-- The value of a string. -/
def str (s : String) : Json := text s.toList

/-- The value of a natural number. -/
def nat (n : Nat) : Json := .number (Text.numeral n)

/-- The value of an integer. -/
def int (n : Int) : Json :=
  .number (if n < 0 then '-' :: Text.numeral n.natAbs else Text.numeral n.natAbs)

/-- An object from its members. -/
def record (members : List (String × Json)) : Json :=
  .object (members.map fun m => (some m.1.toList, m.2))

/-! ## Strings -/

/-- The value of a hexadecimal digit. -/
def hexDigit? (c : Char) : Option Nat :=
  if c.isDigit then some (c.toNat - '0'.toNat)
  else if 'a' ≤ c ∧ c ≤ 'f' then some (c.toNat - 'a'.toNat + 10)
  else if 'A' ≤ c ∧ c ≤ 'F' then some (c.toNat - 'A'.toNat + 10)
  else none

/-- The code unit that four hexadecimal digits denote. -/
def hexUnit? (a b c d : Char) : Option Nat := do
  some ((((← hexDigit? a) * 16 + (← hexDigit? b)) * 16 + (← hexDigit? c)) * 16 + (← hexDigit? d))

/-- The character that a one-letter escape stands for. -/
def escaped? : Char → Option Char
  | '\x22' => some '\x22'
  | '\\' => some '\\'
  | '/' => some '/'
  | 'b' => some '\x08'
  | 'f' => some '\x0c'
  | 'n' => some '\n'
  | 'r' => some '\x0d'
  | 't' => some '\t'
  | _ => none

/-- Reads a string whose opening quote has been read: the numbers of its characters, where an
escaped surrogate stands as itself, and the text after the closing quote. -/
def readString : Text → Option (List Nat × Text)
  | [] => none
  | '\x22' :: rest => some ([], rest)
  | '\\' :: 'u' :: a :: b :: c :: d :: rest => do
    let unit ← hexUnit? a b c d
    let (units, rest) ← readString rest
    some (unit :: units, rest)
  | '\\' :: e :: rest => do
    let c ← escaped? e
    let (units, rest) ← readString rest
    some (c.toNat :: units, rest)
  | c :: rest =>
    if c == '\\' || c.toNat < 0x20 then none
    else do
      let (units, rest) ← readString rest
      some (c.toNat :: units, rest)

/-- Whether a code unit is the first half of a surrogate pair. -/
def isHighSurrogate (n : Nat) : Bool := 0xD800 ≤ n && n < 0xDC00

/-- Whether a code unit is the second half of a surrogate pair. -/
def isLowSurrogate (n : Nat) : Bool := 0xDC00 ≤ n && n < 0xE000

/-- The text of a list of character numbers in which surrogates come in pairs; `none` when one has
no partner. -/
def decode : List Nat → Option Text
  | [] => some []
  | n :: rest =>
    if isHighSurrogate n then
      match rest with
      | m :: rest' =>
        if isLowSurrogate m then
          (decode rest').map (Char.ofNat (0x10000 + (n - 0xD800) * 0x400 + (m - 0xDC00)) :: ·)
        else none
      | [] => none
    else if isLowSurrogate n then none
    else (decode rest).map (Char.ofNat n :: ·)

/-! ## Numbers -/

/-- Whether a character is `e` or `E`. -/
def isExponentMark (c : Char) : Bool := c == 'e' || c == 'E'

/-- Reads a nonempty run of digits. -/
def readDigits (s : Text) : Option (Text × Text) :=
  match s.takeWhile Char.isDigit with
  | [] => none
  | digits => some (digits, s.dropWhile Char.isDigit)

/-- Reads an integer part: zero alone or digits that do not start with zero. -/
def readWhole : Text → Option (Text × Text)
  | '0' :: rest => if (rest.head?.map Char.isDigit).getD false then none else some (['0'], rest)
  | s => readDigits s

/-- Reads the fraction of a number, if a point follows. -/
def readFraction : Text → Option (Text × Text)
  | '.' :: rest => (readDigits rest).map fun (digits, rest) => ('.' :: digits, rest)
  | s => some ([], s)

/-- Reads a sign of an exponent, if there is one. -/
def readSign : Text → Text × Text
  | '+' :: rest => (['+'], rest)
  | '-' :: rest => (['-'], rest)
  | s => ([], s)

/-- Reads the exponent of a number, if its mark follows. -/
def readExponent : Text → Option (Text × Text)
  | c :: rest =>
    if isExponentMark c then
      let (sign, rest) := readSign rest
      (readDigits rest).map fun (digits, rest) => (c :: sign ++ digits, rest)
    else some ([], c :: rest)
  | [] => some ([], [])

/-- Reads a number without its sign. -/
def readUnsigned (s : Text) : Option (Text × Text) := do
  let (whole, s) ← readWhole s
  let (fraction, s) ← readFraction s
  let (exponent, s) ← readExponent s
  some (whole ++ fraction ++ exponent, s)

/-- Reads a number. -/
def readNumber : Text → Option (Text × Text)
  | '-' :: rest => (readUnsigned rest).map fun (literal, rest) => ('-' :: literal, rest)
  | s => readUnsigned s

/-! ## Values -/

/-- Whether a character may stand between the tokens of a JSON text. -/
def isSpace (c : Char) : Bool := c == ' ' || c == '\t' || c == '\n' || c == '\x0d'

/-- The text without its leading space. -/
def skipSpace (s : Text) : Text := s.dropWhile isSpace

mutual

/-- Reads one value, which may be preceded by space. -/
def readValue : (fuel : Nat) → Text → Option (Json × Text)
  | 0, _ => none
  | fuel + 1, s =>
    match skipSpace s with
    | 'n' :: 'u' :: 'l' :: 'l' :: rest => some (.null, rest)
    | 't' :: 'r' :: 'u' :: 'e' :: rest => some (.bool true, rest)
    | 'f' :: 'a' :: 'l' :: 's' :: 'e' :: rest => some (.bool false, rest)
    | '\x22' :: rest => (readString rest).map fun (units, rest) => (.string (decode units), rest)
    | '[' :: rest =>
      match skipSpace rest with
      | ']' :: rest => some (.array [], rest)
      | rest => (readItems fuel rest).map fun (items, rest) => (.array items, rest)
    | '\x7b' :: rest =>
      match skipSpace rest with
      | '\x7d' :: rest => some (.object [], rest)
      | rest => (readMembers fuel rest).map fun (members, rest) => (.object members, rest)
    | s => (readNumber s).map fun (literal, rest) => (.number literal, rest)

/-- Reads the items of an array, of which there is at least one, and the closing bracket. -/
def readItems : (fuel : Nat) → Text → Option (List Json × Text)
  | 0, _ => none
  | fuel + 1, s => do
    let (item, rest) ← readValue fuel s
    match skipSpace rest with
    | ',' :: rest =>
      let (items, rest) ← readItems fuel rest
      some (item :: items, rest)
    | ']' :: rest => some ([item], rest)
    | _ => none

/-- Reads the members of an object, of which there is at least one, and the closing brace. -/
def readMembers : (fuel : Nat) → Text → Option (List (Option Text × Json) × Text)
  | 0, _ => none
  | fuel + 1, s =>
    match skipSpace s with
    | '\x22' :: rest => do
      let (units, rest) ← readString rest
      match skipSpace rest with
      | ':' :: rest =>
        let (value, rest) ← readValue fuel rest
        match skipSpace rest with
        | ',' :: rest =>
          let (members, rest) ← readMembers fuel rest
          some ((decode units, value) :: members, rest)
        | '\x7d' :: rest => some ([(decode units, value)], rest)
        | _ => none
      | _ => none
    | _ => none

end

/-- The value of a JSON text, `none` when the text is not JSON. A value uses at most two units of
fuel for each of its characters. -/
def parse (s : Text) : Option Json :=
  match readValue (2 * s.length + 2) s with
  | some (value, rest) => if (skipSpace rest).isEmpty then some value else none
  | none => none

/-! ## Printing -/

/-- A character inside a string: quote, backslash and the control characters are escaped. -/
def escapeChar (c : Char) : Text :=
  if c == '\x22' then ['\\', '\x22']
  else if c == '\\' then ['\\', '\\']
  else if c == '\x08' then ['\\', 'b']
  else if c == '\x0c' then ['\\', 'f']
  else if c == '\n' then ['\\', 'n']
  else if c == '\x0d' then ['\\', 'r']
  else if c == '\t' then ['\\', 't']
  else if c.toNat < 0x20 then
    ['\\', 'u', '0', '0', Nat.digitChar (c.toNat / 16), Nat.digitChar (c.toNat % 16)]
  else [c]

/-- A string with its quotes. One that is no text is written as a lone surrogate. -/
def quote : Option Text → Text
  | some s => '\x22' :: s.flatMap escapeChar ++ ['\x22']
  | none => "\x22\\ud800\x22".toList

mutual

/-- The value on one line without space between its tokens. -/
def compact : Json → Text
  | .null => "null".toList
  | .bool true => "true".toList
  | .bool false => "false".toList
  | .number literal => literal
  | .string s => quote s
  | .array items => '[' :: Text.joined [','] (compactItems items) ++ [']']
  | .object members => '\x7b' :: Text.joined [','] (compactMembers members) ++ ['\x7d']

/-- The items, each on its own. -/
def compactItems : List Json → List Text
  | [] => []
  | item :: items => compact item :: compactItems items

/-- The members, each on its own. -/
def compactMembers : List (Option Text × Json) → List Text
  | [] => []
  | (key, value) :: members => (quote key ++ ':' :: compact value) :: compactMembers members

end

/-- A line break and the indentation of a nesting depth, two blanks a level. -/
def newline (depth : Nat) : Text := '\n' :: List.replicate (2 * depth) ' '

/-- Pieces in brackets, each on a line of its own; brackets alone when there is none. -/
def block (depth : Nat) (opening closing : Char) (pieces : List Text) : Text :=
  if pieces.isEmpty then [opening, closing]
  else opening :: newline (depth + 1) ++ Text.joined (',' :: newline (depth + 1)) pieces ++
    newline depth ++ [closing]

mutual

/-- The value with one item or member a line, at a nesting depth. -/
def prettyAt (depth : Nat) : Json → Text
  | .null => "null".toList
  | .bool true => "true".toList
  | .bool false => "false".toList
  | .number literal => literal
  | .string s => quote s
  | .array items => block depth '[' ']' (prettyItems (depth + 1) items)
  | .object members => block depth '\x7b' '\x7d' (prettyMembers (depth + 1) members)

/-- The items at a nesting depth. -/
def prettyItems (depth : Nat) : List Json → List Text
  | [] => []
  | item :: items => prettyAt depth item :: prettyItems depth items

/-- The members at a nesting depth. -/
def prettyMembers (depth : Nat) : List (Option Text × Json) → List Text
  | [] => []
  | (key, value) :: members =>
    (quote key ++ ':' :: ' ' :: prettyAt depth value) :: prettyMembers depth members

end

/-- The value over several lines, indented by two blanks a level. -/
def pretty (value : Json) : Text := prettyAt 0 value

/-! ## Reading a record off a value -/

/-- The text of a string. -/
def asText? : Json → Option Text
  | .string s => s
  | _ => none

/-- The items of an array. -/
def asArray? : Json → Option (List Json)
  | .array items => some items
  | _ => none

/-- The number of an integer literal without sign, fraction and exponent, if it has 64 bits. -/
def asWord? : Json → Option Nat
  | .number literal => Text.word? literal
  | _ => none

/-- `none` for `null`, otherwise what `read` makes of the value. -/
def asNullable? {α : Type} (read : Json → Option α) : Json → Option (Option α)
  | .null => some none
  | value => (read value).map some

/-- The members of an object, provided that all keys are texts. -/
def fields? (members : List (Option Text × Json)) : Option (List (Text × Json)) :=
  members.mapM fun (key, value) => key.map fun key => (key, value)

/-- The values of a key, in order. -/
def valuesOf (key : String) (fields : List (Text × Json)) : List Json :=
  (fields.filter fun field => field.1 == key.toList).map Prod.snd

/-- The value of a key that may be left out but not repeated. -/
def atMostOnce? (key : String) (fields : List (Text × Json)) : Option (Option Json) :=
  match valuesOf key fields with
  | [] => some none
  | [value] => some (some value)
  | _ => none

end Json
end SchemaBatch
