import BatchStringify.Session.Run

/-!
# Whole sessions

A session is driven from the top by steps that can also reach the queue itself. Each answers with
a report: its result, the part of the journal that it wrote, and what can be seen of the session
afterwards.
-/

namespace BatchStringify.Session

/-- A new session. -/
def start (debuggee : Debuggee) (settings : DebuggerSettings) (connection : Connection) : Session :=
  { link := { debuggee := debuggee }, settings := settings, connection := connection }

/-- Drops the embedder's own sender, if it still has it. -/
def dropOwnSender (s : Session) : Session :=
  if s.holdsSender then { s with queue := s.queue.dropSender, holdsSender := false } else s

/-- Drops the receiving end of the queue. -/
def closeQueue (s : Session) : Session := { s with queue := s.queue.close }

/-- What a worker thread makes of a session: it executes tasks until the queue is empty and no
sender is left. The embedder's sender is dropped before the thread starts, or kept until the queue
has come to rest. -/
def workThread (keepOpen : Bool) (s : Session) : Session :=
  (if keepOpen then s else s.dropOwnSender).runPending.2.dropOwnSender.closeQueue

/-- Performs a step at the top. -/
def performTop : TopStep → Session → Result × Session
  | .run, s =>
    if s.queue.isOpen then
      let (count, s) := s.runPending
      (.number count, s)
    else (.noQueue, s)
  | .dropQueue, s => (.done, s.closeQueue)
  | .dropSender, s => (.done, s.dropOwnSender)
  | .showSenders, s =>
    (.senders (if s.holdsSender then some s.queue.describeSender else none)
      CommandQueue.describeWeakSender, s)
  | .thread keepOpen, s => (.done, if s.queue.isOpen then s.workThread keepOpen else s)
  | .step step, s =>
    match (perform step).run.run s with
    | (.ok result, s) => (result, s)
    | (.error _, s) => (.done, s)

/-- What a step at the top shows. -/
structure StepReport where
  result : Result
  /-- What happened during the step. -/
  journal : List Entry
  availability : Availability
  pending : Bool
  /-- How many tasks were ever sent, while the embedder has its sender. -/
  enqueued : Option Nat
  /-- Whether tasks wait, while there is a queue. -/
  queued : Option Bool

/-- Performs a step at the top and reports it. -/
def reportStep (step : TopStep) (s : Session) : StepReport × Session :=
  let (result, s) := performTop step (s.withLink { s.link with journal := [] })
  ({ result := result
     journal := s.link.journal
     availability := s.probe.availability
     pending := s.hasPending
     enqueued := if s.holdsSender then some s.queue.enqueued else none
     queued := if s.queue.isOpen then some !s.queue.waiting.isEmpty else none }, s)

/-- Performs the steps of a script and reports each. -/
def reports : List TopStep → Session → List StepReport
  | [], _ => []
  | step :: rest, s =>
    let (shown, s) := s.reportStep step
    shown :: reports rest s

end BatchStringify.Session
