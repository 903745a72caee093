import BatchStringify.Proofs.Actions
import BatchStringify.Proofs.Events
import BatchStringify.Proofs.Exchanges

/-!
# The ledger of a session

What is known about the requests of a session: which wait for a flush or for a task of their own,
which were accepted, and which were completed. The ledger is a view: it leaves out what the debuggee
and the commands of the embedder do, so most of what a session does leaves the ledger as it is, and
the rest are the few operations defined here.
-/

namespace BatchStringify

namespace Task

/-- The scope whose batch a task evaluates. -/
def flushScope? : Task → Option Scope
  | .flush context => some context.scope
  | _ => none

/-- The request that a task evaluates on its own. -/
def single? : Task → Option Request
  | .individual request => some request
  | _ => none

/-- The scope whose requests a task evaluates. -/
def servedScope? : Task → Option Scope
  | .flush context => some context.scope
  | .individual request => some request.context.scope
  | .command _ _ => none

/-- Whether a task is a command of the embedder. -/
def isCommand : Task → Bool
  | .command _ _ => true
  | _ => false

/-- A task that is no command serves a scope. -/
theorem isCommand_eq_false_iff {task : Task} :
    task.isCommand = false ↔ ∃ scope, task.servedScope? = some scope := by
  cases task <;> simp [isCommand, servedScope?]

end Task

/-- The way of the requests of a session, and what it depends on. -/
structure Ledger where
  /-- The scopes so far. -/
  scopes : List Scope
  /-- Whether the receiving end of the queue is there. -/
  isOpen : Bool
  /-- The batches that wait for their flush. -/
  pending : Table Nat (List Request)
  /-- The scopes of the flushes in the queue, the next one first. -/
  flushes : List Scope
  /-- The requests in the queue with a task of their own, the next one first. -/
  singles : List Request
  /-- How many requests were made. -/
  made : Nat
  accepted : List Request
  completed : List (Request × Completion)
  /-- The panics that tasks ended with. -/
  panics : List Panic

namespace Ledger

variable (l : Ledger)

/-- The requests that were accepted and whose task was not taken yet. -/
def waiting : List Request := l.pending.entries.flatMap (·.2) ++ l.singles

/-- Counts further requests as made. -/
def make (n : Nat) : Ledger := { l with made := l.made + n }

/-- Completes requests. -/
def complete (done : List (Request × Completion)) : Ledger :=
  { l with completed := l.completed ++ done }

@[simp] theorem complete_nil : l.complete [] = l := by simp [complete]

/-- Accepts a request. -/
def accept (request : Request) : Ledger := { l with accepted := l.accepted ++ [request] }

/-- Gives a request a task of its own. -/
def enqueue (request : Request) : Ledger :=
  { l with singles := if l.isOpen then l.singles ++ [request] else l.singles }

/-- Sends the flush of a scope. -/
def sendFlush (scope : Scope) : Ledger :=
  { l with flushes := if l.isOpen then l.flushes ++ [scope] else l.flushes }

/-- Adds a request to the batch of its scope; the first one brings the flush with it. -/
def join (request : Request) : Ledger :=
  let scope := request.context.scope
  match l.pending.find? scope.id with
  | some batch => { l with pending := l.pending.put scope.id (batch ++ [request]) }
  | none => { l with pending := l.pending.put scope.id [request] }.sendFlush scope

@[simp] theorem accepted_join (request : Request) : (l.join request).accepted = l.accepted := by
  unfold join
  dsimp only
  split <;> rfl

@[simp] theorem completed_join (request : Request) :
    (l.join request).completed = l.completed := by
  unfold join
  dsimp only
  split <;> rfl

@[simp] theorem made_join (request : Request) : (l.join request).made = l.made := by
  unfold join
  dsimp only
  split <;> rfl

/-- A request that joins is the last one of the batch of its scope. -/
theorem pending_join (request : Request) :
    (l.join request).pending = l.pending.put request.context.scope.id
      ((l.pending.find? request.context.scope.id).getD [] ++ [request]) := by
  unfold join
  dsimp only
  cases l.pending.find? request.context.scope.id <;> rfl

end Ledger

namespace Session

variable (s : Session)

/-- The requests that were submitted while a sender was there, in order. -/
def accepted : List Request := s.link.journal.filterMap Entry.accepted?

/-- The uses of sinks, in order. -/
def completions : List (Request × Completion) := s.link.journal.filterMap Entry.completed?

/-- The ledger of a session. -/
def ledger : Ledger where
  scopes := s.suspensions.scopes
  isOpen := s.queue.isOpen
  pending := s.pending
  flushes := s.queue.waiting.filterMap Task.flushScope?
  singles := s.queue.waiting.filterMap Task.single?
  made := s.made
  accepted := s.accepted
  completed := s.completions
  panics := s.link.journal.filterMap Entry.panic?

/-! ## What leaves the ledger as it is -/

/-- Calls and notices that are no panic concern no request. -/
theorem filterMap_asides {kind : Call → Prop} {more : List Entry}
    (h : ∀ entry ∈ more, entry.IsAside kind) :
    more.filterMap Entry.accepted? = [] ∧ more.filterMap Entry.completed? = [] ∧
      more.filterMap Entry.panic? = [] := by
  have hall : ∀ entry ∈ more,
      entry.accepted? = none ∧ entry.completed? = none ∧ entry.panic? = none := by
    intro entry he
    have ha := h entry he
    cases entry with
    | exchange call outcome => exact ⟨rfl, rfl, rfl⟩
    | notice notice => exact ⟨rfl, rfl, ha⟩
    | _ => exact ha.elim
  simp only [List.filterMap_eq_nil_iff]
  exact ⟨fun e he => (hall e he).1, fun e he => (hall e he).2.1, fun e he => (hall e he).2.2⟩

/-- So the ledger stays while the link grows by them. -/
theorem ledger_withLink {kind : Call → Prop} {link : Link} (h : s.link.Grows kind link) :
    (s.withLink link).ledger = s.ledger := by
  obtain ⟨more, hm, ha⟩ := h.journal
  obtain ⟨h₁, h₂, h₃⟩ := filterMap_asides ha
  simp [ledger, accepted, completions, withLink, hm, h₁, h₂, h₃]

/-- A notice that is no panic leaves the ledger as it is. -/
theorem ledger_note {notice : Logging.Notice} (h : (Entry.notice notice).panic? = none) :
    (s.note notice).ledger = s.ledger := by
  have hg : s.link.Grows (fun _ => True) (s.link.note notice) := s.link.grows_note h
  exact s.ledger_withLink hg

@[simp] theorem ledger_emit (report : Report) : (s.emit report).ledger = s.ledger := by
  simp [ledger, accepted, completions, emit, record, withLink, Link.record, Entry.accepted?,
    Entry.completed?, Entry.panic?]

@[simp] theorem ledger_invalidateAt (index : Nat) : (s.invalidateAt index).ledger = s.ledger := by
  unfold invalidateAt
  split <;> rfl

@[simp] theorem ledger_detach (attachment : Nat) : (s.detach attachment).ledger = s.ledger := rfl

@[simp] theorem ledger_processDetached : s.processDetached.ledger = s.ledger :=
  s.ledger_note rfl

@[simp] theorem ledger_askProbe (context : Context) : (s.askProbe context).2.ledger = s.ledger := by
  unfold askProbe
  split
  · exact s.ledger_withLink (Probe.ask_grows _ _ _ _)
  · rfl

/-- A task that is sent goes to the end of the queue while the queue is open. -/
theorem ledger_invoke (task : Task) :
    (s.invoke task).ledger = { s.ledger with
      flushes := s.ledger.flushes ++ if s.queue.isOpen then task.flushScope?.toList else []
      singles := s.ledger.singles ++ if s.queue.isOpen then task.single?.toList else [] } := by
  have hfilter : ∀ {α : Type} (f : Task → Option α), [task].filterMap f = (f task).toList := by
    intro α f
    cases h : f task <;> simp [h]
  unfold invoke
  dsimp only
  by_cases h : s.queue.isOpen
  · rw [if_pos h]
    simp only [ledger, CommandQueue.send, h, if_true, List.filterMap_append, hfilter]
    rfl
  · rw [if_neg h, ledger_note _ rfl]
    simp only [ledger, CommandQueue.send, if_neg h, List.append_nil]
    rfl

@[simp] theorem ledger_offer (command : Command) : (s.offer command).ledger = s.ledger := by
  unfold offer invokeCommand
  split
  · rw [ledger_invoke]
    simp [Task.flushScope?, Task.single?]
  · rfl

@[simp] theorem ledger_afterSink (sink : Sink) : (afterSink sink s).ledger = s.ledger := by
  unfold afterSink
  dsimp only
  rw [foldl_keeps ledger ledger_offer, foldl_keeps ledger ledger_detach,
    foldl_keeps ledger ledger_invalidateAt]

@[simp] theorem ledger_dropOwnSender : s.dropOwnSender.ledger = s.ledger := by
  unfold dropOwnSender
  split <;> rfl

/-! ## What the ledger keeps -/

/-- Noting that a request was accepted accepts it in the ledger. -/
theorem ledger_record_accepted (request : Request) :
    (s.record (.accepted request)).ledger = s.ledger.accept request := by
  simp [ledger, accepted, completions, record, withLink, Link.record, Entry.accepted?,
    Entry.completed?, Entry.panic?, Ledger.accept]

/-- Noting that a request was completed completes it in the ledger. -/
theorem ledger_record_completed (request : Request) (completion : Completion) :
    (s.record (.completed request completion)).ledger =
      s.ledger.complete [(request, completion)] := by
  simp [ledger, accepted, completions, record, withLink, Link.record, Entry.accepted?,
    Entry.completed?, Entry.panic?, Ledger.complete]

/-- A panic is counted. -/
theorem ledger_note_panic (cancelled : Bool) (payload : Panic) :
    (s.note (.commandPanicked cancelled payload)).ledger =
      { s.ledger with panics := s.ledger.panics ++ [payload] } := by
  simp [ledger, accepted, completions, note, withLink, Link.note, Link.record, Entry.accepted?,
    Entry.completed?, Entry.panic?]

/-- A task for a single request waits in the ledger as well. -/
theorem ledger_invoke_single (request : Request) :
    (s.invoke (.individual request)).ledger = s.ledger.enqueue request := by
  rw [ledger_invoke, Ledger.enqueue]
  by_cases h : s.queue.isOpen
  · rw [if_pos h, if_pos h, if_pos (show s.ledger.isOpen from h)]
    simp [Task.flushScope?, Task.single?]
  · rw [if_neg h, if_neg h, if_neg (show ¬s.ledger.isOpen from h), List.append_nil, List.append_nil]

/-- So does a flush. -/
theorem ledger_invoke_flush (context : Context) :
    (s.invoke (.flush context)).ledger = s.ledger.sendFlush context.scope := by
  rw [ledger_invoke, Ledger.sendFlush]
  by_cases h : s.queue.isOpen
  · rw [if_pos h, if_pos h, if_pos (show s.ledger.isOpen from h)]
    simp [Task.flushScope?, Task.single?]
  · rw [if_neg h, if_neg h, if_neg (show ¬s.ledger.isOpen from h), List.append_nil, List.append_nil]

/-- Joining a batch sends a flush if the batch is new. -/
theorem ledger_join (request : Request) : (s.join request).ledger = s.ledger.join request := by
  unfold join Ledger.join
  dsimp only [ledger]
  cases s.pending.find? request.context.scope.id with
  | none => exact ledger_invoke_flush _ _
  | some batch => rfl

/-- A request that is put on its way gets a task of its own or joins the batch of its scope, and
then it refers to an object. -/
theorem ledger_accept (request : Request) :
    (s.accept request).ledger = s.ledger.enqueue request ∨
      request.value.objectId?.isSome ∧ (s.accept request).ledger = s.ledger.join request := by
  have hask := s.ledger_askProbe request.context
  rcases s.accept_cases request with ⟨s', rfl | rfl, ha⟩ | ⟨hobject, -, ha⟩ <;> rw [ha]
  · exact .inl (ledger_invoke_single _ _)
  · exact .inl (hask ▸ ledger_invoke_single _ request)
  · exact .inr ⟨hobject, hask ▸ ledger_join _ request⟩

/-- A submission is dropped if no sender is left, and otherwise accepted and put on its way. -/
theorem ledger_submit (request : Request) :
    s.queue.hasSender = false ∧ (s.submit request).ledger = s.ledger ∨
      s.queue.hasSender = true ∧
        ((s.submit request).ledger = (s.ledger.accept request).enqueue request ∨
          request.value.objectId?.isSome ∧
            (s.submit request).ledger = (s.ledger.accept request).join request) := by
  cases hs : s.queue.hasSender with
  | false =>
    rw [submit, hs]
    exact .inl ⟨rfl, s.ledger_note rfl⟩
  | true =>
    have ha := (s.record (.accepted request)).ledger_accept request
    rw [ledger_record_accepted] at ha
    rw [submit_of_hasSender hs]
    exact .inr ⟨rfl, ha⟩

end Session

end BatchStringify
