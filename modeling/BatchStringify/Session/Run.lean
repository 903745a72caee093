import BatchStringify.Session.Perform

/-!
# Running the queue

Commands are taken from the queue one at a time. Whether a command is run or cancelled is decided
when it is taken: it is cancelled if its scope is no longer valid. A panic ends the command at hand
and nothing else. `runPending` goes on until the queue is empty; a command can send further
commands, but all in all no more than `work` counts.
-/

namespace BatchStringify.Session

/-- Reports the start of a command and performs its steps. -/
def runCommand (name : String) (steps : List Step) (cancelled : Bool) : Action Unit := do
  modify (·.emit (.started name cancelled))
  performAll name steps

/-- Runs a task. -/
def run : Task → Action Unit
  | .flush context => flush context
  | .individual request => evaluateIndividually request
  | .command command _ => runCommand command.name command.run false

/-- What a task does in place of running when its scope is gone. -/
def cancel : Task → Action Unit
  | .flush context => modify (·.discard context.scope.id)
  | .individual _ => pure ()
  | .command command _ =>
    match command.style with
    | .ordinary => runCommand command.name command.cancelled true
    | _ => pure ()

/-- Whether a task is cancelled if it is taken from the queue now. -/
def isCancelled (s : Session) (task : Task) : Bool :=
  task.scope?.any fun scope => !s.suspensions.isValid scope

/-- Runs or cancels a task and contains its panic. -/
def execute (task : Task) (s : Session) : Session :=
  let cancelled := s.isCancelled task
  match (if cancelled then cancel task else run task).run.run s with
  | (.ok (), s) => s
  | (.error payload, s) => s.note (.commandPanicked cancelled payload)

/-- Takes one task from the queue, if one waits, and executes it. -/
def dequeue (s : Session) : Option Session :=
  s.queue.receive?.map fun (task, queue) => execute task { s with queue := queue }

/-- Executes at most `fuel` tasks, and says how many. -/
def drain : Nat → Session → Nat × Session
  | 0, s => (0, s)
  | fuel + 1, s =>
    match s.dequeue with
    | none => (0, s)
    | some s =>
      let (count, s) := drain fuel s
      (count + 1, s)

/-- The weight of several things together. -/
def total {α : Type} (weight : α → Nat) : List α → Nat
  | [] => 0
  | x :: rest => weight x + total weight rest

/-- The commands that pending requests can give rise to. -/
def pendingWork (t : Table Nat (List Request)) : Nat :=
  total (fun e => total Request.weight e.2) t.entries

/-- How many tasks can be executed before the queue is empty: those that wait, and those that they
and the requests waiting for a flush can give rise to. -/
def work (s : Session) : Nat := total Task.weight s.queue.waiting + pendingWork s.pending

/-- Executes tasks until the queue is empty, and says how many. -/
def runPending (s : Session) : Nat × Session := drain s.work s

end BatchStringify.Session
