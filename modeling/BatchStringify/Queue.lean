/-!
# The command queue

A first-in, first-out queue with any number of senders. Commands can be sent as long as a sender is
left; once the receiving end is dropped, what waits is lost and what is sent later is lost too. The
queue counts everything that was ever sent, and its history, which nothing reads, lists it.
-/

namespace BatchStringify

/-- A queue of commands with the bookkeeping of its two ends. -/
structure CommandQueue (α : Type) where
  /-- The commands that wait, the next one first. -/
  waiting : List α := []
  /-- Whether the receiving end is there. -/
  isOpen : Bool := true
  /-- The number of senders that keep the queue open. -/
  senders : Nat := 1
  /-- How many commands were ever sent. -/
  enqueued : Nat := 0
  /-- The commands that were ever sent, the first one first. -/
  sent : List α := []

namespace CommandQueue

variable {α : Type} (q : CommandQueue α)

/-- Whether commands can be sent. -/
def hasSender : Bool := decide (0 < q.senders)

/-- Sends a command: at the end of the queue, or nowhere if the receiving end is gone. -/
def send (a : α) : CommandQueue α :=
  { q with
    waiting := if q.isOpen then q.waiting ++ [a] else q.waiting
    enqueued := q.enqueued + 1
    sent := q.sent ++ [a] }

/-- Takes the command that waits longest. -/
def receive? : Option (α × CommandQueue α) :=
  match q.waiting with
  | [] => none
  | a :: rest => some (a, { q with waiting := rest })

/-- Drops the receiving end. -/
def close : CommandQueue α := { q with waiting := [], isOpen := false }

/-- Drops a sender. -/
def dropSender : CommandQueue α := { q with senders := q.senders - 1 }

/-- A sender as messages about it show it. -/
def describeSender : String :=
  "CommandSender \x7b enqueued: " ++ toString q.enqueued ++ " \x7d"

/-- A sender that does not keep the queue open, as messages about it show it. -/
def describeWeakSender : String := "WeakCommandSender \x7b .. \x7d"

end CommandQueue

end BatchStringify
