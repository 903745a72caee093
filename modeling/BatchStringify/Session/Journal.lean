import BatchStringify.Session.Probe
import BatchStringify.Session.Request

/-!
# The journal

Everything that happens in a session, in one order: the exchanges with the debuggee, the notices for
the log, what commands report, and the two ends of each request: that it was accepted and that it was
completed. An embedder sees all of it but the acceptances.
-/

namespace BatchStringify

/-- What came of a call to the debuggee. -/
inductive Outcome where
  | done
  | owner (handle : ClassHandle)
  | method (id : Option MethodId)
  | id (n : ObjectId)
  | value (v : Value)
  | text (s : String)
  | error (error : RemoteError)
  | panicked
  deriving DecidableEq, Repr

/-- The outcome of a call that can fail. -/
def Outcome.of {α : Type} (ok : α → Outcome) : Except RemoteError α → Outcome
  | .ok a => ok a
  | .error cause => .error cause

/-- The outcome of a call that can fail or panic. -/
def Outcome.ofPanicking : Except Panic (Except RemoteError Value) → Outcome
  | .ok result => .of .value result
  | .error _ => .panicked

/-- What a step answers. -/
inductive Result where
  | done
  | number (n : Nat)
  | flag (b : Bool)
  /-- There is no queue to run. -/
  | noQueue
  /-- Whether a command could be enqueued. -/
  | accepted (b : Bool)
  | suspended (index id : Nat)
  | suspensions (u : Suspensions)
  | compared (order : Ordering)
  | settings (s : DebuggerSettings)
  | request (r : Request)
  | batch (done : Bool) (left : List Value)
  | probe (state : Probe)
  /-- The description of the embedder's sender, if it still has one, and of a weak one. -/
  | senders (own : Option String) (weak : String)
  | outcome (o : Outcome)

/-- What requests and commands report. -/
inductive Report where
  /-- A request was completed. -/
  | completed (label : String) (completion : Completion)
  /-- A command was taken from the queue, to be run or to be cancelled. -/
  | started (command : String) (cancelled : Bool)
  /-- A command went through one of its steps. -/
  | performed (command : String) (step : Step) (result : Result)

/-- An entry of the journal. -/
inductive Entry where
  | exchange (call : Call) (outcome : Outcome)
  | notice (notice : Logging.Notice)
  | report (report : Report)
  /-- A request was put on its way. -/
  | accepted (request : Request)
  /-- One of the sinks of a request was used. -/
  | completed (request : Request) (completion : Completion)

namespace Entry

/-- The exchange of an entry, if it is one. -/
def exchange? : Entry → Option (Call × Outcome)
  | .exchange call outcome => some (call, outcome)
  | _ => none

/-- The notice of an entry, if it is one. -/
def notice? : Entry → Option Logging.Notice
  | .notice cause => some cause
  | _ => none

/-- What an entry reports to the embedder, if anything. -/
def report? : Entry → Option Report
  | .report content => some content
  | .completed request completion => some (.completed request.label completion)
  | _ => none

/-- The request that an entry says was accepted. -/
def accepted? : Entry → Option Request
  | .accepted request => some request
  | _ => none

/-- The request that an entry says was completed, and how. -/
def completed? : Entry → Option (Request × Completion)
  | .completed request completion => some (request, completion)
  | _ => none

end Entry

end BatchStringify
