import SchemaBatch.Json
import SchemaBatch.SessionError
import SchemaBatch.TextFile

/-!
# `Options` — what a session is opened with

Contents: `Options` with its defaults and its setters; `Options.check`, which tells the options that
a session accepts; the JSON form (`Options.toJson`, `Options.ofJson?`) and `Options.ofText`,
`Options.ofFile`, which read and check it. Spans of time are in milliseconds.
-/

namespace SchemaBatch

/-- The time an interrupted statement gets to report what it knows, unless set otherwise. -/
def defaultGrace : Nat := 5000

/-- What a session is opened with. -/
structure Options where
  /-- The database that the session talks to. -/
  database : Text
  /-- The timeout of each statement, none when absent. -/
  timeout : Option Nat
  /-- The time an interrupted statement gets to report partial results. -/
  grace : Nat
  deriving DecidableEq, Repr

namespace Options

/-- The options of a session for which nothing is set. -/
def standard : Options := ⟨"default".toList, none, defaultGrace⟩

/-- A span of nanoseconds in whole milliseconds, no more than 64 bits hold. -/
def wholeMillis (nanoseconds : Nat) : Nat := min (nanoseconds / 1000000) Text.maxWord

/-- The options with another database. -/
def withDatabase (o : Options) (database : Text) : Options := { o with database }

/-- The options with a timeout, given in nanoseconds. -/
def withTimeout (o : Options) (nanoseconds : Nat) : Options :=
  { o with timeout := some (wholeMillis nanoseconds) }

/-- The options with a grace period, given in nanoseconds. -/
def withGrace (o : Options) (nanoseconds : Nat) : Options :=
  { o with grace := wholeMillis nanoseconds }

/-! ## Validity -/

/-- Why options are refused. -/
inductive Fault where
  /-- The name of the database holds nothing but blanks. -/
  | noDatabase
  /-- A timeout of no time at all. -/
  | zeroTimeout
  /-- The text is not the JSON form of options. -/
  | malformed
  /-- The file could not be read. -/
  | unreadable (path : Text) (fault : ReadFault)
  deriving DecidableEq, Repr

/-- The message of a fault. -/
def Fault.message : Fault → String
  | .noDatabase => "Database name must not be empty"
  | .zeroTimeout => "Statement timeout must be positive"
  | .malformed => "Invalid options"
  | .unreadable path fault =>
    "Failed to read options file " ++ Text.string path ++ ": " ++ fault.message

/-- The error that a session reports for a fault. -/
def Fault.error (fault : Fault) : SessionError := .configuration fault.message

/-- Whether a session accepts the options. -/
def check (o : Options) : Except Fault Unit :=
  if (Text.trim o.database).isEmpty then .error .noDatabase
  else if o.timeout = some 0 then .error .zeroTimeout
  else .ok ()

/-- The options, if a session accepts them. -/
def checked (o : Options) : Except Fault Options := o.check.map fun _ => o

/-! ## JSON -/

/-- The names of the members, in the order of the fields. -/
def memberNames : String × String × String :=
  ("database", "statement_timeout_ms", "cancel_grace_period_ms")

/-- The JSON form of the options. -/
def toJson (o : Options) : Json :=
  Json.record
    [(memberNames.1, Json.text o.database),
      (memberNames.2.1, (o.timeout.map Json.nat).getD .null),
      (memberNames.2.2, Json.nat o.grace)]

/-- The options of the values of their fields. A field without a value has its default. -/
def ofFields (database timeout grace : Option Json) : Option Options := do
  let database ← match database with
    | some value => value.asText?
    | none => some standard.database
  let timeout ← match timeout with
    | some value => value.asNullable? Json.asWord?
    | none => some standard.timeout
  let grace ← match grace with
    | some value => value.asWord?
    | none => some standard.grace
  some ⟨database, timeout, grace⟩

/-- The options that a value describes: an object that has each field at most once, and may have
others, or an array of the leading fields. -/
def ofJson? : Json → Option Options
  | .object members => do
    let fields ← Json.fields? members
    let database ← Json.atMostOnce? memberNames.1 fields
    let timeout ← Json.atMostOnce? memberNames.2.1 fields
    let grace ← Json.atMostOnce? memberNames.2.2 fields
    ofFields database timeout grace
  | .array items => if items.length ≤ 3 then ofFields items[0]? items[1]? items[2]? else none
  | _ => none

/-- The options that a JSON text describes, if a session accepts them. -/
def ofText (text : Text) : Except Fault Options :=
  match (Json.parse text).bind ofJson? with
  | none => .error .malformed
  | some o => o.checked

/-- The options that a file describes, if a session accepts them. -/
def ofFile (file : TextFile) : Except Fault Options :=
  match file.content with
  | .error fault => .error (.unreadable file.path fault)
  | .ok text => ofText text

end Options
end SchemaBatch
