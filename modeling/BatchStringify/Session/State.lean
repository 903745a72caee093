import BatchStringify.Queue
import BatchStringify.Session.Probing

/-!
# The state of a session

A session has a link to the debuggee, its settings, what the probe found out, the batches that wait
for their flush, and the queue that carries all work. An object to be turned into text joins the
batch of its scope if batches can be evaluated, and the first request of a batch brings the flush
with it; everything else is evaluated on its own.
-/

namespace BatchStringify

/-- What waits in the queue of a session. -/
inductive Task where
  /-- Evaluates the batch of the scope of this context. -/
  | flush (context : Context)
  | individual (request : Request)
  | command (command : Command) (scope : Option Scope)

namespace Task

/-- The scope whose end cancels a task. -/
def scope? : Task → Option Scope
  | .flush context => some context.scope
  | .individual request => some request.context.scope
  | .command work scope =>
    match work.style with
    | .unbound => none
    | _ => scope

/-- How many commands a task can give rise to, itself included. -/
def weight : Task → Nat
  | .flush _ => 1
  | .individual request => 1 + request.weight
  | .command work _ => work.weight

end Task

/-- A session between a debugger and a debuggee. -/
structure Session where
  link : Link
  settings : DebuggerSettings := {}
  connection : Connection := .localProcess
  probe : Probe := .unknown
  /-- The requests that wait for the flush of their scope, by the number of the scope. -/
  pending : Table Nat (List Request) := .empty
  queue : CommandQueue Task := {}
  /-- Whether the embedder still has the sender that it was given. -/
  holdsSender : Bool := true
  suspensions : Suspensions := {}
  /-- A probe that only the embedder asks. -/
  spareProbe : Probe := .unknown
  /-- How many requests were made so far. -/
  made : Nat := 0

namespace Session

variable (s : Session)

/-- The session with a changed link. -/
def withLink (link : Link) : Session := { s with link := link }

/-- Adds a notice to the journal. -/
def note (notice : Logging.Notice) : Session := s.withLink (s.link.note notice)

/-- Adds an entry to the journal. -/
def record (entry : Entry) : Session := s.withLink (s.link.record entry)

/-- Adds a report to the journal. -/
def emit (content : Report) : Session := s.record (.report content)

/-- Sends a task to the queue, which may be gone. -/
def invoke (task : Task) : Session :=
  let sent := { s with queue := s.queue.send task }
  if s.queue.isOpen then sent else sent.note .commandDropped

/-- Asks whether batches can be evaluated in a context. -/
def askProbe (context : Context) : Bool × Session :=
  if s.settings.batchEvaluation then
    let (probe, link) := s.probe.ask s.settings context s.link
    (probe.allows, { s with probe := probe, link := link })
  else (false, s)

/-- Adds a request to the batch of its scope; the first one brings the flush with it. -/
def join (request : Request) : Session :=
  let id := request.context.scope.id
  match s.pending.find? id with
  | some batch => { s with pending := s.pending.put id (batch ++ [request]) }
  | none => { s with pending := s.pending.put id [request] }.invoke (.flush request.context)

/-- Puts a request on its way while a sender is there. -/
def accept (request : Request) : Session :=
  match request.value.objectId? with
  | none => s.invoke (.individual request)
  | some _ =>
    match s.askProbe request.context with
    | (true, s) => s.join request
    | (false, s) => s.invoke (.individual request)

/-- Takes a request, or drops it if no sender is left. -/
def submit (request : Request) : Session :=
  if s.queue.hasSender then (s.record (.accepted request)).accept request
  else s.note .submissionDropped

/-- The requests that wait for the flush of a scope, and the session without them. -/
def takePending (scope : Nat) : List Request × Session :=
  ((s.pending.find? scope).getD [], { s with pending := s.pending.erase scope })

/-- Drops the batch of a scope that is no longer valid. -/
def discard (scope : Nat) : Session :=
  let (requests, s) := s.takePending scope
  s.note (.batchDiscarded scope requests.length)

/-- Takes notice of the end of the debuggee: the probe starts anew, what waits goes on waiting. -/
def processDetached : Session :=
  { s.note .debuggeeDetached with probe := .unknown }

/-- How many requests wait for the flush of a scope. -/
def pendingLength (scope : Nat) : Nat := ((s.pending.find? scope).getD []).length

/-- Whether any request waits for a flush. -/
def hasPending : Bool := !s.pending.keys.isEmpty

/-- The scope at a position in the list of scopes. -/
def scopeAt? (index : Nat) : Option Scope := s.suspensions.scopes[index]?

/-- The context at a place. -/
def contextAt? (place : Place) : Option Context :=
  (s.scopeAt? place.scope).map fun scope =>
    ⟨scope, place.loader, place.connection.getD s.connection⟩

/-- Makes the request for a submission, if its scope exists. -/
def makeRequest (submission : Submission) : Option Request × Session :=
  match s.contextAt? submission.place with
  | some context =>
    (some ⟨s.made, submission.label, submission.value, context, submission.sink⟩,
      { s with made := s.made + 1 })
  | none => (none, s)

/-- Makes requests for labelled values, without any further effect of their sinks. -/
def makePlain (context : Context) (values : List (String × Value)) : List Request × Session :=
  (values.mapIdx fun i (label, value) =>
    ⟨s.made + i, label, value, context, ⟨[], [], [], none⟩⟩,
    { s with made := s.made + values.length })

/-- Sends a command, with its scope looked up now. -/
def invokeCommand (command : Command) : Session :=
  s.invoke (.command command (command.scope.bind s.scopeAt?))

/-- Sends a command if a sender is left. -/
def offer (command : Command) : Session :=
  if s.queue.hasSender then s.invokeCommand command else s

/-- Ends the scope at a position. -/
def invalidateAt (index : Nat) : Session :=
  match s.scopeAt? index with
  | some scope => { s with suspensions := s.suspensions.invalidate scope }
  | none => s

/-- Detaches the attachment at a position. -/
def detach (attachment : Nat) : Session :=
  { s with suspensions := s.suspensions.detach attachment }

end Session

end BatchStringify
