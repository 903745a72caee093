import BatchStringify.Proofs.ScopeCalls
import BatchStringify.Queue

/-!
# The manager as a machine

A queue whose commands a thread of its own executes, while others go on sending, handle their senders and end
scopes. A manager is what all of them see between two acts, and a run is any sequence of acts that are possible
one after the other, so the runs are the interleavings of everything that the thread and the others do.

Commands are whatever a workload says that they are. A command can carry senders: while it waits they are in
the queue with it, and when it is taken they are at hand and can be used, cloned, handed over or dropped like
any others. What a command finds outside of the state that it works on, it finds while it is executed, so it is
not part of the machine and comes with the end of the execution.
-/

namespace BatchStringify

namespace CommandQueue

variable {α : Type} (q : CommandQueue α)

/-- Adds a sender. -/
def addSender : CommandQueue α := { q with senders := q.senders + 1 }

/-- Makes a sender out of one that does not keep the queue open, if there is still one that does. -/
def upgrade? : Option (CommandQueue α) := if q.hasSender then some q.addSender else none

end CommandQueue

/-- The commands of a queue. They are executed on states of `σ` and find `ω` outside of the state. -/
structure Workload (κ ω σ : Type) where
  /-- The scope whose end cancels a command. -/
  scope? : κ → Option Scope
  /-- What a command makes of the state when it is run or cancelled. A panic is caught and part of it. -/
  execute : Bool → κ → ω → σ → σ

/-- A command on its way, with the number of senders that it carries. -/
structure Parcel (κ : Type) where
  command : κ
  senders : Nat := 0
  deriving DecidableEq, Repr

/-- The command that is executed at the moment. -/
structure Job (κ : Type) where
  command : κ
  /-- Whether it is cancelled, as it was decided when it was taken. -/
  cancelled : Bool
  deriving DecidableEq, Repr

/-- A command that was executed. -/
structure Execution (κ ω : Type) where
  command : κ
  cancelled : Bool
  seen : ω
  deriving DecidableEq, Repr

/-- Who holds a sender: the command at hand, or anybody else. -/
inductive Holder where
  | command
  | elsewhere
  deriving DecidableEq, Repr

/-- What can be done with senders apart from sending. -/
inductive Handling where
  | clone (holder : Holder)
  | drop (holder : Holder)
  /-- Hands a sender over to the other holder. -/
  | pass (holder : Holder)
  | downgrade (holder : Holder)
  | cloneWeak
  | dropWeak
  | upgrade (holder : Holder)
  deriving DecidableEq, Repr

/-- One thing that the thread or somebody else does. -/
inductive Act (κ ω : Type) where
  | handle (handling : Handling)
  /-- A holder sends a command and puts some of its senders into it. -/
  | send (holder : Holder) (command : κ) (senders : Nat)
  | scope (call : ScopeCall)
  /-- The thread takes the next command and decides whether to cancel it. -/
  | take
  /-- The command at hand ends, and this is what it found outside of the state. -/
  | finish (seen : ω)
  /-- The thread finds its queue empty and without senders, and ends. -/
  | exit
  deriving DecidableEq, Repr

/-- Whether the thread does it without sending or keeping anything. -/
def Act.isWorker {κ ω : Type} : Act κ ω → Bool
  | .take => true
  | .handle (.drop .command) => true
  | .finish _ => true
  | .exit => true
  | _ => false

/-- A queue, the thread that executes its commands, and all senders. -/
structure Manager (κ ω σ : Type) where
  queue : CommandQueue (Parcel κ)
  suspensions : Suspensions
  /-- The number of senders that the command at hand holds. -/
  inHand : Nat := 0
  /-- The number of senders that neither the command at hand holds nor those that wait. -/
  elsewhere : Nat
  /-- The number of senders that do not keep the queue open. -/
  weak : Nat
  /-- The state that the thread has for itself. -/
  state : σ
  job : Option (Job κ) := none
  /-- What was executed so far, which no act reads. -/
  executed : List (Execution κ ω) := []
  exited : Bool := false

namespace Manager

variable {κ ω σ : Type} (m : Manager κ ω σ)

/-- The number of senders that commands carry. -/
def carried : List (Parcel κ) → Nat
  | [] => 0
  | parcel :: rest => parcel.senders + carried rest

/-- The number of all senders that keep the queue open, wherever they are. -/
def strong : Nat := m.inHand + m.elsewhere + carried m.queue.waiting

/-- The manager right after its thread was started, with the commands that were sent before. -/
def spawn (sent : List (Parcel κ)) (elsewhere weak : Nat) (suspensions : Suspensions) (state : σ) :
    Manager κ ω σ where
  queue :=
    { waiting := sent, senders := elsewhere + carried sent, enqueued := sent.length, sent := sent }
  suspensions := suspensions
  elsewhere := elsewhere
  weak := weak
  state := state

/-- How many senders a holder has. -/
def held : Holder → Nat
  | .command => m.inHand
  | .elsewhere => m.elsewhere

/-- The manager with another number of senders at a holder. -/
def withHeld (n : Nat) : Holder → Manager κ ω σ
  | .command => { m with inHand := n }
  | .elsewhere => { m with elsewhere := n }

/-- Whether a holder is there. -/
def isPresent : Holder → Bool
  | .command => m.job.isSome
  | .elsewhere => true

/-- Hands a sender over from one holder to the other. -/
def pass : Holder → Manager κ ω σ
  | .command => { m with inHand := m.inHand - 1, elsewhere := m.elsewhere + 1 }
  | .elsewhere => { m with inHand := m.inHand + 1, elsewhere := m.elsewhere - 1 }

/-- Does something with senders, if there are those that it takes. -/
def handle : Handling → Option (Manager κ ω σ)
  | .clone holder =>
    if 0 < m.held holder then
      some ({ m with queue := m.queue.addSender }.withHeld (m.held holder + 1) holder)
    else none
  | .drop holder =>
    if 0 < m.held holder then
      some ({ m with queue := m.queue.dropSender }.withHeld (m.held holder - 1) holder)
    else none
  | .pass holder => if 0 < m.held holder ∧ m.job.isSome then some (m.pass holder) else none
  | .downgrade holder => if 0 < m.held holder then some { m with weak := m.weak + 1 } else none
  | .cloneWeak => if 0 < m.weak then some { m with weak := m.weak + 1 } else none
  | .dropWeak => if 0 < m.weak then some { m with weak := m.weak - 1 } else none
  | .upgrade holder =>
    if 0 < m.weak ∧ m.isPresent holder then
      m.queue.upgrade?.map fun queue =>
        { m with queue := queue }.withHeld (m.held holder + 1) holder
    else none

/-- Whether the receiving end says that nothing will come any more: the queue is empty and no sender is
left. -/
def isDrained : Bool := m.queue.waiting.isEmpty && !m.queue.hasSender

/-- What waiting for the thread gives: its state, once it has ended. -/
def join? : Option σ := if m.exited then some m.state else none

end Manager

namespace Workload

variable {κ ω σ : Type} (w : Workload κ ω σ)

/-- Whether a command is cancelled if it is taken now. -/
def isCancelled (u : Suspensions) (command : κ) : Bool :=
  (w.scope? command).any fun scope => !u.isValid scope

/-- The state after an execution. -/
def apply (state : σ) (e : Execution κ ω) : σ := w.execute e.cancelled e.command e.seen state

/-- The manager after an act, if the act is possible. -/
def step (m : Manager κ ω σ) : Act κ ω → Option (Manager κ ω σ)
  | .handle handling => m.handle handling
  | .send holder command senders =>
    if senders < m.held holder then
      some ({ m with queue := m.queue.send ⟨command, senders⟩ }.withHeld
        (m.held holder - senders) holder)
    else none
  | .scope call => some { m with suspensions := m.suspensions.call call }
  | .take =>
    if m.job.isNone then
      m.queue.receive?.map fun (parcel, queue) =>
        { m with
          queue := queue
          inHand := parcel.senders
          job := some ⟨parcel.command, w.isCancelled m.suspensions parcel.command⟩ }
    else none
  | .finish seen =>
    -- the command is used up, so its senders were dropped or are elsewhere
    if m.inHand = 0 then
      m.job.map fun job =>
        { m with
          state := w.execute job.cancelled job.command seen m.state
          job := none
          executed := m.executed ++ [⟨job.command, job.cancelled, seen⟩] }
    else none
  | .exit =>
    if m.job.isNone ∧ m.exited = false ∧ m.isDrained then
      some { m with queue := m.queue.close, exited := true }
    else none

/-- The manager after several acts, if each of them is possible in its turn. -/
def run (acts : List (Act κ ω)) (m : Manager κ ω σ) : Option (Manager κ ω σ) := acts.foldlM w.step m

/-- The command that is taken in an act, with whether its scope is no longer valid at that moment. -/
def takingsAt (m : Manager κ ω σ) : Act κ ω → List (κ × Bool)
  | .take => m.queue.waiting.head?.toList.map fun parcel =>
    (parcel.command, w.isCancelled m.suspensions parcel.command)
  | _ => []

/-- The commands that are taken in a run. -/
def takings : List (Act κ ω) → Manager κ ω σ → List (κ × Bool)
  | [], _ => []
  | act :: rest, m => w.takingsAt m act ++ (w.step m act).elim [] (takings rest)

variable {w} {m m' : Manager κ ω σ}

@[simp] theorem run_nil : w.run [] m = some m := rfl

@[simp] theorem run_cons (act : Act κ ω) (rest : List (Act κ ω)) :
    w.run (act :: rest) m = (w.step m act).bind (w.run rest) := by
  unfold run
  rw [List.foldlM_cons]
  rfl

theorem run_singleton (act : Act κ ω) : w.run [act] m = w.step m act := by
  rw [run_cons]
  exact Option.bind_fun_some _

theorem run_append (first second : List (Act κ ω)) :
    w.run (first ++ second) m = (w.run first m).bind (w.run second) := by
  unfold run
  rw [List.foldlM_append]
  rfl

/-- What an act before others leads to. -/
theorem exists_of_run_cons {act : Act κ ω} {rest : List (Act κ ω)}
    (h : w.run (act :: rest) m = some m') :
    ∃ t, w.step m act = some t ∧ w.run rest t = some m' := by
  rw [run_cons] at h
  exact Option.bind_eq_some_iff.1 h

theorem run_trans {first second : List (Act κ ω)} {t : Manager κ ω σ} (h : w.run first m = some t)
    (h' : w.run second t = some m') : w.run (first ++ second) m = some m' := by
  rw [run_append, h]
  exact h'

end Workload

end BatchStringify
