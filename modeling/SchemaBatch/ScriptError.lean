import SchemaBatch.SessionError
import SchemaBatch.TextFile

/-!
# `ScriptError` — why a script was not carried out

Contents: `ScriptError` and its message.
-/

namespace SchemaBatch

/-- Why a script was not carried out, or not all of it. -/
inductive ScriptError where
  /-- The script could not be read. -/
  | unreadable (path : Text) (fault : ReadFault)
  /-- A statement that a script must not hold, without its comments. -/
  | misplaced (statement : Text)
  /-- The batch was run, but not all of its statements were applied. -/
  | batchFailed (message : String)
  /-- The session refused a statement or its options. -/
  | session (error : SessionError)
  deriving DecidableEq, Repr

/-- The message of the error. -/
def ScriptError.text : ScriptError → String
  | .unreadable path fault => "Failed to read " ++ Text.string path ++ ": " ++ fault.message
  | .misplaced statement =>
    "Invalid script: '" ++ Text.string statement ++
      "' is not allowed, the run command manages the batch"
  | .batchFailed message => "Batch failed: " ++ message
  | .session error => error.text

end SchemaBatch
