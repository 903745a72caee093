import BatchStringify.Batch.Availability
import BatchStringify.Batch.Fault
import BatchStringify.Logging.Level
import BatchStringify.Panic
import BatchStringify.Suspension

/-!
# Notices

What the library has to say in the log. A notice is the cause; `Notice.event` is the event that the
log shows for it.
-/

namespace BatchStringify

namespace Logging

/-- The content of one field of an event. -/
inductive FieldValue where
  | number (n : Nat)
  | flag (b : Bool)
  | text (s : String)
  deriving DecidableEq, Repr

/-- An entry of the log. -/
structure Event where
  level : Level
  /-- The part of the library that speaks. -/
  target : String
  message : String
  /-- Further fields in order. -/
  fields : List (String × FieldValue) := []
  deriving DecidableEq, Repr

/-- Something worth a line in the log. -/
inductive Notice where
  /-- A second subscriber was to be installed. -/
  | alreadyInstalled
  | debuggeeDetached
  | remoteDebuggee
  | helperClassMissing (error : RemoteError)
  | helperLookupFailed (error : RemoteError)
  | helperProbed (helperClass : String) (availability : Availability)
  /-- The submission came after the last sender was gone. -/
  | submissionDropped
  /-- The command came after the queue was gone. -/
  | commandDropped
  | commandPanicked (cancelled : Bool) (payload : Panic)
  | batchDiscarded (scope requests : Nat)
  | batchFailed (scope requests : Nat) (fault : BatchFault)
  | releaseFailed (object : ObjectId) (error : RemoteError)
  deriving DecidableEq, Repr

/-- The event of a notice. -/
def Notice.event : Notice → Event
  | .alreadyInstalled =>
    { level := .debug, target := "nova.config"
      message := "a global tracing subscriber is already installed" }
  | .debuggeeDetached =>
    { level := .debug, target := "nova.batch_eval", message := "debuggee detached" }
  | .remoteDebuggee =>
    { level := .debug, target := "nova.batch_eval"
      message := "remote debuggee; batch evaluation disabled" }
  | .helperClassMissing error =>
    { level := .debug, target := "nova.batch_eval", message := "batch helper class not found"
      fields := [("error", .text error.message)] }
  | .helperLookupFailed error =>
    { level := .debug, target := "nova.batch_eval", message := "batch helper method lookup failed"
      fields := [("error", .text error.message)] }
  | .helperProbed helperClass availability =>
    { level := .debug, target := "nova.batch_eval", message := "probed batch helper"
      fields := [("class", .text helperClass), ("availability", .text availability.name)] }
  | .submissionDropped =>
    { level := .debug, target := "nova.batch_eval"
      message := "manager queue shut down; dropping stringify request" }
  | .commandDropped =>
    { level := .debug, target := "nova.scheduler"
      message := "manager queue shut down; dropping command" }
  | .commandPanicked cancelled payload =>
    { level := .error, target := "nova.scheduler", message := "debugger command panicked"
      fields := [("cancelled", .flag cancelled), ("panic", .text payload.message)] }
  | .batchDiscarded scope requests =>
    { level := .debug, target := "nova.batch_eval"
      message := "scope torn down before flush; dropping pending batch"
      fields := [("scope", .text (Scope.name scope)), ("requests", .number requests)] }
  | .batchFailed scope requests fault =>
    { level := .debug, target := "nova.batch_eval"
      message := "batch evaluation failed; falling back to per-value evaluation"
      fields := [("scope", .text (Scope.name scope)), ("requests", .number requests),
        ("invalidated", .flag fault.isInvalidated), ("expected", .flag fault.isExpected),
        ("error", .text fault.message)] }
  | .releaseFailed object error =>
    { level := .debug, target := "nova.batch_eval"
      message := "failed to re-enable collection of batch reply"
      fields := [("object", .number object), ("error", .text error.message)] }

end Logging

end BatchStringify
