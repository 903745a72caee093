import BatchStringify.Batch.Attempt
import BatchStringify.Session.State

/-!
# Delivery

How requests come to their text. A batch that can be evaluated with one call is delivered from the
reply, entry by entry; otherwise each of its requests is evaluated on its own, in the same order.
Exactly one of the two sinks of a request is used. A sink may panic, and then the rest of the work
at hand is abandoned, while everything that happened before stays as it is.
-/

namespace BatchStringify

/-- Work on a session that can end with a panic. What it did before the panic stays done. -/
abbrev Action (α : Type) : Type := ExceptT Panic (StateM Session) α

namespace Session

/-- Does work on the link of the session. -/
def onLink {α : Type} (work : Link → α × Link) : Action α := fun s =>
  let (a, link) := work s.link
  (.ok a, s.withLink link)

/-- What a sink does to the session after taking a text. -/
def afterSink (sink : Sink) (s : Session) : Session :=
  let s := sink.invalidate.foldl invalidateAt s
  let s := sink.detach.foldl detach s
  sink.invoke.foldl offer s

/-- Completes a request and does what its sink does besides. -/
def complete (request : Request) (completion : Completion) : Action Unit := do
  modify fun s => afterSink request.sink (s.record (.completed request completion))
  match request.sink.panic with
  | some payload => throw payload
  | none => pure ()

/-- The text of a value that is evaluated on its own. -/
def individualText (value : Value) (thread : Option ThreadId) (link : Link) :
    Except RemoteError String × Link :=
  match value.localText?, value.objectId?, thread with
  | some text, _, _ => (.ok text, link)
  | none, none, _ => (.error (.invalidType ("cannot stringify " ++ value.describe)), link)
  | none, some _, none => (.error (.evaluation "no suspended thread to evaluate on"), link)
  | none, some id, some thread => link.invokeToString thread id

/-- Evaluates a request on its own. -/
def evaluateIndividually (request : Request) : Action Unit := do
  let outcome ← onLink (individualText request.value request.context.scope.thread)
  complete request (.ofOutcome outcome)

/-- Completes each request with the entry at its place. -/
def deliver (requests : List Request) (entries : List Reply.Entry) : Action Unit :=
  (requests.zip entries).forM fun (request, entry) => complete request (.ofEntry entry)

/-- Evaluates the values of requests with one call, if that is possible. -/
def attemptBatch (helper : Helper) (context : Context) (requests : List Request) :
    Action (Except BatchFault (List Reply.Entry)) := fun s =>
  let (result, link) :=
    (Attempt.evaluate s.settings helper context (requests.map (·.value))).run.run.run s.link
  (result, s.withLink link)

/-- Evaluates requests with one call and completes them, or leaves them all alone. Says whether it
completed them, and which are left. -/
def evaluateBatch (helper : Helper) (context : Context) (requests : List Request) :
    Action (Bool × List Request) := do
  match ← attemptBatch helper context requests with
  | .ok entries =>
    deliver requests entries
    return (true, [])
  | .error fault =>
    modify (·.note (.batchFailed context.scope.id requests.length fault))
    return (false, requests)

/-- Evaluates requests with one call if the helper is known. Says whether it completed them, and
which are left. -/
def evaluateTogether (context : Context) (requests : List Request) :
    Action (Bool × List Request) := do
  match (← get).probe.helper? with
  | some helper => evaluateBatch helper context requests
  | none => return (false, requests)

/-- Evaluates requests with one call, or else one by one. -/
def evaluateAll (context : Context) (requests : List Request) : Action Unit := do
  let (completed, left) ← evaluateTogether context requests
  if completed then return () else left.forM evaluateIndividually

/-- Evaluates the batch of a scope, if there is one. -/
def flush (context : Context) : Action Unit := do
  let requests ← modifyGet (·.takePending context.scope.id)
  if requests.isEmpty then return () else evaluateAll context requests

end Session

end BatchStringify
