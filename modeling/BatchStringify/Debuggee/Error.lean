/-!
# Remote errors

What can go wrong when the debuggee is asked for something.
-/

namespace BatchStringify

/-- The cause of a failed remote call. -/
inductive RemoteError where
  | notConnected
  | classNotLoaded (name : String)
  | objectCollected (id : Nat)
  | invalidType (detail : String)
  /-- The method that was run threw this exception. -/
  | invocationException (exception : String)
  | evaluation (detail : String)
  | vmError (code : Nat)
  | timeout
  | cancelled
  deriving DecidableEq, Repr, Inhabited

namespace RemoteError

/-- The wording of a remote error. -/
def message : RemoteError → String
  | .notConnected => "JDWP client is not connected"
  | .classNotLoaded name => "class " ++ name ++ " is not loaded in the debuggee"
  | .objectCollected id => "object " ++ toString id ++ " has been collected"
  | .invalidType detail => "type mismatch: " ++ detail
  | .invocationException exception => "method threw exception: " ++ exception
  | .evaluation detail => "evaluation failed: " ++ detail
  | .vmError code => "JDWP command failed with error code " ++ toString code
  | .timeout => "JDWP request timed out"
  | .cancelled => "JDWP request cancelled"

/-- Whether a batch may run into the error in the normal course of things: all but a lost
connection and a cancelled request. -/
def isBatchFault : RemoteError → Bool
  | .notConnected | .cancelled => false
  | _ => true

/-- The message for a value whose text could not be made because a method threw. -/
def thrownMessage (exception : String) : String :=
  "Method threw '" ++ exception ++ "' exception."

/-- The message that a user sees in place of the text of a value. -/
def userMessage : RemoteError → String
  | .invocationException exception => thrownMessage exception
  | other => other.message

end RemoteError

end BatchStringify
