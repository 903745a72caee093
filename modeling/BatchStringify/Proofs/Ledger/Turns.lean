import BatchStringify.Proofs.Ledger.Steps

/-!
# Turns in the ledger

A turn of the queue takes a task off the ledger and brings the requests that it carries to their end:
none of them if the task is cancelled, all of them if it runs to its end, and some first ones if it
panics. Commands carry no requests of their own and only lead along steps of the ledger (`turned`).
-/

namespace BatchStringify

namespace Ledger

variable (l : Ledger)

/-- Notes the panics that a task ended with. -/
def panic (more : List Panic) : Ledger := { l with panics := l.panics ++ more }

@[simp] theorem panic_nil : l.panic [] = l := by simp [panic]

/-- Takes the next flush off a ledger, with the batch of its scope. -/
def takeFlush (scope : Scope) (rest : List Scope) : Ledger :=
  { l with flushes := rest, pending := l.pending.erase scope.id }

/-- Takes the next request with a task of its own off a ledger. -/
def takeSingle (rest : List Request) : Ledger := { l with singles := rest }

/-- How requests that share a scope are taken off a ledger: as a batch with its flush, or one alone.
-/
inductive Takes : Ledger → Scope → List Request → Ledger → Prop where
  | flush {l : Ledger} {scope : Scope} {rest : List Scope} (flushes_eq : l.flushes = scope :: rest) :
    Takes l scope ((l.pending.find? scope.id).getD []) (l.takeFlush scope rest)
  | single {l : Ledger} {request : Request} {rest : List Request}
    (singles_eq : l.singles = request :: rest) :
    Takes l request.context.scope [request] (l.takeSingle rest)

end Ledger

namespace Session

/-- What a turn makes of the ledger of a session. -/
inductive Turned (s : Session) : Ledger → Prop where
  /-- No task waited. -/
  | idle (next_eq : s.next = []) : Turned s s.ledger
  /-- A command of the embedder was executed. -/
  | command {l : Ledger} (next_eq : s.next = [])
    (leads : Relation.ReflTransGen Ledger.Step s.ledger l) (more : List Panic) :
    Turned s (l.panic more)
  /-- The task of requests was executed. -/
  | carried {scope : Scope} {l : Ledger} (takes : s.ledger.Takes scope s.next l)
    (done : List (Request × Completion)) (more : List Panic)
    (first : done.map (·.1) <+: s.next)
    (cancelled : s.suspensions.isValid scope = false → done = [])
    (finished : s.suspensions.isValid scope = true → more = [] → done.map (·.1) = s.next) :
    Turned s ((l.complete done).panic more)

/-- What a turn makes of the ledger of a session if its task serves requests of a scope. -/
inductive Carries (s : Session) (scope : Scope) : Ledger → Prop where
  | intro {l : Ledger} (takes : s.ledger.Takes scope s.next l)
    (done : List (Request × Completion)) (more : List Panic)
    (first : done.map (·.1) <+: s.next)
    (cancelled : s.suspensions.isValid scope = false → done = [])
    (finished : s.suspensions.isValid scope = true → more = [] → done.map (·.1) = s.next) :
    Carries s scope ((l.complete done).panic more)

theorem Carries.turned {s : Session} {scope : Scope} {l : Ledger} (h : Carries s scope l) :
    Turned s l := by
  obtain ⟨takes, done, more, first, cancelled, finished⟩ := h
  exact .carried takes done more first cancelled finished

/-! ## Taking a task -/

/-- The scope that the next task serves. -/
def servedNext? (s : Session) : Option Scope := s.queue.waiting.head?.bind Task.servedScope?

/-- The session after its next task was taken, with the tasks that still wait. -/
def taken (s : Session) (rest : List Task) : Session :=
  { s with queue := { s.queue with waiting := rest } }

variable {s : Session} {rest : List Task}

/-- A turn takes the first task that waits and executes it. -/
theorem after_turn_of_cons {task : Task} (h : s.queue.waiting = task :: rest) :
    s.after .turn = execute task (s.taken rest) := by
  simp [after, dequeue, CommandQueue.receive?, h, taken]

/-- Without one it does nothing. -/
theorem after_turn_of_nil (h : s.queue.waiting = []) : s.after .turn = s := by
  simp [after, dequeue, CommandQueue.receive?, h]

/-- The requests that are next are those that the first task carries. -/
theorem next_of_cons {task : Task} (h : s.queue.waiting = task :: rest) :
    s.next = s.carried task := by
  rw [next, h]
  rfl

/-- Taking a command takes no request. -/
theorem ledger_taken_command {command : Command} {scope : Option Scope}
    (h : s.queue.waiting = .command command scope :: rest) : (s.taken rest).ledger = s.ledger := by
  simp [ledger, taken, accepted, completions, h, List.filterMap_cons, Task.flushScope?, Task.single?]

/-- Taking a task for a single request takes this request. -/
theorem ledger_taken_individual {request : Request}
    (h : s.queue.waiting = .individual request :: rest) :
    s.ledger.Takes request.context.scope s.next (s.taken rest).ledger := by
  have hl : (s.taken rest).ledger = s.ledger.takeSingle (rest.filterMap Task.single?) := by
    simp [ledger, taken, accepted, completions, h, List.filterMap_cons, Task.flushScope?,
      Ledger.takeSingle]
  rw [next_of_cons h, hl]
  exact .single (by simp [ledger, h, List.filterMap_cons, Task.single?])

/-- Taking a flush, with its batch, takes the requests of the batch. -/
theorem ledger_taken_flush {context : Context} (h : s.queue.waiting = .flush context :: rest) :
    s.ledger.Takes context.scope s.next
      { (s.taken rest).ledger with pending := s.pending.erase context.scope.id } := by
  have hl : ({ (s.taken rest).ledger with pending := s.pending.erase context.scope.id } : Ledger) =
      s.ledger.takeFlush context.scope (rest.filterMap Task.flushScope?) := by
    simp [ledger, taken, accepted, completions, h, List.filterMap_cons, Task.single?, Ledger.takeFlush]
  rw [next_of_cons h, hl]
  exact .flush (by simp [ledger, h, List.filterMap_cons, Task.flushScope?])

/-! ## Execution of tasks -/

/-- The panics that an action ended with, of which there is at most one. -/
def panicsOf : Except Panic Unit → List Panic
  | .ok _ => []
  | .error payload => [payload]

/-- An action that notes no panic came to its end. -/
theorem panicsOf_eq_nil_iff {result : Except Panic Unit} :
    panicsOf result = [] ↔ result = .ok () := by
  cases result <;> simp [panicsOf]

/-- What a task does when it is taken from the queue. -/
def act (s : Session) (task : Task) : Action Unit :=
  if s.isCancelled task then cancel task else run task

/-- A task that is bound to a scope is run exactly if the scope is valid. -/
theorem act_of_scope {task : Task} {scope : Scope} (h : task.scope? = some scope) (s : Session) :
    s.act task = if s.suspensions.isValid scope then run task else cancel task := by
  rw [act, isCancelled, h, Option.any_some]
  cases s.suspensions.isValid scope <;> rfl

/-- Executing a task does what its action does, and notes the panic that ends it. -/
theorem ledger_execute (task : Task) (s : Session) :
    (execute task s).ledger =
      ((s.act task).run.run s).2.ledger.panic (panicsOf ((s.act task).run.run s).1) := by
  unfold execute act
  dsimp only
  rcases (if s.isCancelled task then cancel task else run task).run.run s with ⟨payload | _, s'⟩
  · exact s'.ledger_note_panic _ _
  · exact s'.ledger.panic_nil.symm

/-- Evaluating the batch of a scope takes it off the ledger and completes its requests. -/
theorem completes_flush (context : Context) (s : Session) :
    ({ s.ledger with pending := s.pending.erase context.scope.id } : Ledger).Completes
      ((s.pending.find? context.scope.id).getD [])
      (((flush context).run.run s).1 = .ok ()) ((flush context).run.run s).2.ledger := by
  rw [run_flush]
  by_cases h : (s.takePending context.scope.id).1.isEmpty
  · rw [if_pos h]
    rw [List.isEmpty_iff] at h
    exact ⟨[], h.symm, .nil _ _⟩
  · rw [if_neg h]
    exact completes_evaluateAll _ _ _

/-- Whether a command is run or cancelled, it leads along steps of the ledger. -/
theorem leads_act_command (command : Command) (scope : Option Scope) (s : Session) :
    Along Leads (s.act (.command command scope)) := by
  unfold act
  split
  · rw [cancel]
    cases command.style with
    | ordinary => exact leads_runCommand _ _ _
    | _ => exact .of_pure _
  · exact leads_runCommand _ _ _

/-! ## Turns -/

/-- A turn with a single request carries it out: completed if its scope is valid and dropped if not. -/
theorem carries_individual {request : Request} (h : s.queue.waiting = .individual request :: rest) :
    Carries s request.context.scope (s.after .turn).ledger := by
  have ht := ledger_taken_individual h
  have hnext : s.next = [request] := next_of_cons h
  have hact : (s.taken rest).act (.individual request) =
      if s.suspensions.isValid request.context.scope then run (.individual request)
      else cancel (.individual request) := act_of_scope rfl _
  rw [after_turn_of_cons h, ledger_execute, hact]
  cases hv : s.suspensions.isValid request.context.scope with
  | false =>
    have hend := Carries.intro ht [] [] List.nil_prefix (fun _ => rfl) (by simp [hv])
    rwa [Ledger.complete_nil] at hend
  | true =>
    rw [if_pos rfl, run, ledger_evaluateIndividually]
    refine .intro ht _ _ ?_ (by simp [hv]) fun _ _ => ?_
    · rw [hnext]
      exact List.prefix_refl _
    · rw [hnext]
      rfl

/-- A turn with a flush carries out its batch: in order up to a panic if its scope is valid, and not at all if not. -/
theorem carries_flush {context : Context} (h : s.queue.waiting = .flush context :: rest) :
    Carries s context.scope (s.after .turn).ledger := by
  have ht := ledger_taken_flush h
  have hnext : s.next = (s.pending.find? context.scope.id).getD [] := next_of_cons h
  have hact : (s.taken rest).act (.flush context) =
      if s.suspensions.isValid context.scope then run (.flush context)
      else cancel (.flush context) := act_of_scope rfl _
  rw [after_turn_of_cons h, ledger_execute, hact]
  cases hv : s.suspensions.isValid context.scope with
  | false =>
    have hd : ((s.taken rest).discard context.scope.id).ledger =
        { (s.taken rest).ledger with pending := s.pending.erase context.scope.id } :=
      ledger_note _ rfl
    have hend := Carries.intro ht [] [] List.nil_prefix (fun _ => rfl) (by simp [hv])
    rwa [Ledger.complete_nil, ← hd] at hend
  | true =>
    rw [if_pos rfl, run]
    obtain ⟨due, hdue, done, hdone, hfirst, hall⟩ := completes_flush context (s.taken rest)
    rw [hdone]
    refine .intro ht _ _ ?_ (by simp [hv]) fun _ hmore => ?_
    · rw [hnext]
      rw [show s.pending = (s.taken rest).pending from rfl, ← hdue]
      exact hfirst.map _
    · rw [hall (panicsOf_eq_nil_iff.1 hmore), hdue, hnext]
      rfl

/-- What a turn makes of the ledger if the next task serves a scope. -/
theorem carries_turn {task : Task} {scope : Scope} (h : s.queue.waiting = task :: rest)
    (serves : task.servedScope? = some scope) : Carries s scope (s.after .turn).ledger := by
  cases task with
  | flush context =>
    obtain rfl := Option.some.inj serves
    exact carries_flush h
  | individual request =>
    obtain rfl := Option.some.inj serves
    exact carries_individual h
  | command command scope => cases serves

/-- What a turn makes of the ledger, whatever task is next. -/
theorem turned (s : Session) : Turned s (s.after .turn).ledger := by
  cases h : s.queue.waiting with
  | nil =>
    rw [after_turn_of_nil h]
    exact .idle (by rw [next, h]; rfl)
  | cons task rest =>
    cases task with
    | flush context => exact (carries_flush h).turned
    | individual request => exact (carries_individual h).turned
    | command command scope =>
      rw [after_turn_of_cons h, ledger_execute]
      have hl := leads_act_command command scope (s.taken rest) (s.taken rest)
      rw [Leads, ledger_taken_command h] at hl
      exact .command (next_of_cons h) hl _

end Session

end BatchStringify
