import BatchStringify.Config.Settings
import BatchStringify.Debuggee.Responder
import BatchStringify.Logging.Notice
import BatchStringify.Suspension

/-!
# Scripts

What an embedder does with a session, as data: steps, commands made of steps, and submissions whose
sink may do more than take the text. Scopes and attachments are named by their positions in the
session's lists.

A command or sink can carry further commands, but only finitely many: `Command.weight` and
`Step.weight` count them, and this bounds how long a queue can keep running.
-/

namespace BatchStringify

/-- Where the debuggee runs. -/
inductive Connection where
  | localProcess
  | remote
  deriving DecidableEq, Repr, Inhabited

/-- Where a value is turned into text. -/
structure Context where
  scope : Scope
  /-- The class loader to look up classes with. -/
  loader : Option ObjectId
  connection : Connection
  deriving DecidableEq, Repr

/-- A context by the position of its scope, with the session's own connection unless given. -/
structure Place where
  scope : Nat
  loader : Option ObjectId
  connection : Option Connection
  deriving DecidableEq, Repr

/-- The batch helper as found in the debuggee. -/
structure Helper where
  owner : ClassHandle
  method : MethodId
  deriving DecidableEq, Repr

/-- How a command takes part in cancellation. -/
inductive CommandStyle where
  /-- It is bound to its scope and has steps for the case that the scope is gone. -/
  | ordinary
  /-- It runs whatever became of its scope. -/
  | unbound
  /-- It is bound to its scope and does nothing when the scope is gone. -/
  | silent
  deriving DecidableEq, Repr

/-- How a request made by hand comes to its end. -/
inductive Ending where
  /-- It is evaluated on its own. -/
  | individual
  | succeed (text : String)
  | fail (message : String)
  | drop
  /-- It is shown and dropped. -/
  | describe
  deriving DecidableEq, Repr

mutual

/-- Work for the manager queue. -/
structure Command where
  name : String
  /-- What it does. -/
  run : List Step
  /-- What it does instead when its scope is no longer valid. -/
  cancelled : List Step
  /-- The position of its scope. -/
  scope : Option Nat
  style : CommandStyle

/-- What the sinks of a request do after taking the text, in this order. Sent commands wait, and the ends of scopes
commute with sending, so another order of the first three would do the same. -/
structure Sink where
  /-- The scopes to invalidate. -/
  invalidate : List Nat
  /-- The attachments to detach. -/
  detach : List Nat
  /-- The commands to enqueue. -/
  invoke : List Command
  panic : Option Panic

/-- A value handed in to be turned into text. -/
structure Submission where
  label : String
  value : Value
  place : Place
  sink : Sink

/-- One thing to do with a session. -/
inductive Step where
  | attach
  | suspend (attachment : Nat) (thread : Option ThreadId)
  | invalidate (scope : Nat)
  | detach (attachment : Nat)
  | scopes
  | compareScopes (a b : Nat)
  | submit (submission : Submission)
  /-- Submits a request that was made beforehand. -/
  | submitRequest (submission : Submission)
  | available (place : Place)
  | processDetached
  | pendingLength (scope : Nat)
  | isOpen
  | settings
  | invoke (command : Command)
  | panic (payload : Panic)
  | request (submission : Submission) (ending : Ending)
  | evaluateBatch (place : Place) (helper : Helper) (requests : List (String × Value))
  /-- Asks a probe of its own, apart from the session's. -/
  | probe (place : Place)
  | probeState
  | probeDetach
  | defineClass (name : String)
  | defineMethod (owner name signature : String)
  | setDisplay (id : ObjectId) (outcome : Except RemoteError String)
  | fail (operation : Operation) (error : RemoteError)
  /-- From now on letting an object be collected reports this error. -/
  | failRelease (error : RemoteError)
  | setHandler (handler : Handler)
  | isPinned (id : ObjectId)
  | displayCalls (id : ObjectId)
  /-- Calls the debuggee directly. -/
  | call (call : Call)

end

/-- Where a script names at most one scope, attachment or command, it can do so as an option. -/
instance optionAsList {α : Type} : Coe (Option α) (List α) := ⟨Option.toList⟩

/-- A step at the top of a script, where the queue and its sender are at hand. -/
inductive TopStep where
  /-- Runs the queue until it is empty. -/
  | run
  | dropQueue
  | dropSender
  | showSenders
  /-- Hands queue and session to a worker thread and waits for its end. -/
  | thread (keepOpen : Bool)
  | step (step : Step)

mutual

/-- How many commands a command can give rise to, itself included. -/
def Command.weight : Command → Nat
  | ⟨_, run, cancelled, _, _⟩ => 1 + Step.weights run + Step.weights cancelled

/-- How many commands a sink can give rise to. -/
def Sink.weight : Sink → Nat
  | ⟨_, _, commands, _⟩ => Command.weights commands

/-- How many commands several commands can give rise to, themselves included. -/
def Command.weights : List Command → Nat
  | [] => 0
  | command :: rest => command.weight + Command.weights rest

/-- How many commands a submission can give rise to: its own or its batch's, and its sink's. -/
def Submission.weight : Submission → Nat
  | ⟨_, _, _, sink⟩ => 1 + sink.weight

/-- How many commands a step can give rise to. -/
def Step.weight : Step → Nat
  | .submit submission => submission.weight
  | .submitRequest submission => submission.weight
  | .request submission _ => submission.weight
  | .invoke command => command.weight
  | _ => 0

/-- How many commands several steps can give rise to. -/
def Step.weights : List Step → Nat
  | [] => 0
  | step :: rest => step.weight + Step.weights rest

end

end BatchStringify
