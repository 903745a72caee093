import BatchStringify.Proofs.Conservation
import BatchStringify.Proofs.Manager.Machine
import Mathlib.Data.List.Forall2

/-!
# Sessions as workloads

Of a session, the queue, its senders and the scopes are shared; the rest is the state that tasks work on, which
only the one who executes them touches (`Process`). While the queue is open, a task finds nothing outside of
that state but whether a sender is left and which scopes there are (`View`), and what it makes of the state
depends on nothing else (`process_turn`). The tasks that serve requests do not even depend on these two
(`execute_of_serves`): only commands of the embedder can ask for them.
-/

namespace BatchStringify

/-- The part of a session that tasks work on. -/
structure Process where
  link : Link
  settings : DebuggerSettings
  connection : Connection
  probe : Probe
  pending : Table Nat (List Request)
  spareProbe : Probe
  made : Nat

/-- What a task can find outside of the state that it works on. -/
structure View where
  hasSender : Bool
  suspensions : Suspensions

namespace Session

/-- The part of a session that tasks work on. -/
def process (s : Session) : Process :=
  ⟨s.link, s.settings, s.connection, s.probe, s.pending, s.spareProbe, s.made⟩

/-- What the next task finds outside of the state. -/
def view (s : Session) : View := ⟨s.queue.hasSender, s.suspensions⟩

/-- A session with an open queue, in which nothing waits. -/
def within (p : Process) (v : View) : Session where
  link := p.link
  settings := p.settings
  connection := p.connection
  probe := p.probe
  pending := p.pending
  queue := { senders := v.hasSender.toNat }
  holdsSender := v.hasSender
  suspensions := v.suspensions
  spareProbe := p.spareProbe
  made := p.made

/-- Whether two sessions with open queues are in the same state apart from what is shared. If `whole` holds,
tasks find the same in both. -/
structure Parallel (whole : Prop) (s t : Session) : Prop where
  process : s.process = t.process
  isOpen : s.queue.isOpen = true
  isOpen' : t.queue.isOpen = true
  view : whole → s.view = t.view

/-- Whether an action does the same to parallel sessions. -/
def Uniform (whole : Prop) {α : Type} (a : Action α) : Prop :=
  ∀ s t, Parallel whole s t →
    (a.run.run s).1 = (a.run.run t).1 ∧ Parallel whole (a.run.run s).2 (a.run.run t).2

variable {whole : Prop} {α β γ : Type} {s t : Session}

namespace Uniform

theorem of_pure (x : α) : Uniform whole (pure x : Action α) := fun _ _ h => ⟨rfl, h⟩

theorem of_throw (payload : Panic) : Uniform whole (throw payload : Action α) := fun _ _ h => ⟨rfl, h⟩

/-- Uniform actions in a row are uniform, since both sessions come to the same result in between. -/
theorem of_bind {a : Action α} {f : α → Action β} (ha : Uniform whole a)
    (hf : ∀ x, Uniform whole (f x)) : Uniform whole (a >>= f) := by
  intro s t h
  obtain ⟨hresult, hparallel⟩ := ha s t h
  rw [run_bind, run_bind]
  rcases hs : a.run.run s with ⟨payload | x, s'⟩ <;>
    rcases ht : a.run.run t with ⟨payload' | x', t'⟩ <;>
    rw [hs, ht] at hresult hparallel <;> cases hresult
  · exact ⟨rfl, hparallel⟩
  · exact hf x s' t' hparallel

theorem of_modify {f : Session → Session} (h : ∀ s t, Parallel whole s t → Parallel whole (f s) (f t)) :
    Uniform whole (modify f : Action PUnit) := fun s t hst => ⟨rfl, h s t hst⟩

/-- A change that also reads is uniform if it reads the same from parallel sessions. -/
theorem of_modifyGet {f : Session → α × Session}
    (h : ∀ s t, Parallel whole s t → (f s).1 = (f t).1 ∧ Parallel whole (f s).2 (f t).2) :
    Uniform whole (modifyGet f : Action α) := fun s t hst =>
  ⟨congrArg Except.ok (h s t hst).1, (h s t hst).2⟩

/-- A uniform action for each of several things is uniform. -/
theorem of_forM {f : γ → Action PUnit} {xs : List γ} (h : ∀ x, Uniform whole (f x)) :
    Uniform whole (xs.forM f) := by
  induction xs with
  | nil => exact of_pure _
  | cons x rest ih => exact of_bind (h x) fun _ => ih

end Uniform

/-! ## Pieces -/

/-- Of two parallel sessions one is the other with another queue and other scopes. -/
theorem Parallel.exists_eq (h : Parallel whole s t) : ∃ queue holdsSender suspensions,
    t = { s with queue := queue, holdsSender := holdsSender, suspensions := suspensions } := by
  obtain ⟨link, settings, connection, probe, pending, queue, holdsSender, suspensions, spareProbe,
    made⟩ := t
  have hprocess := h.process
  simp only [Session.process, Process.mk.injEq] at hprocess
  obtain ⟨rfl, rfl, rfl, rfl, rfl, rfl, rfl⟩ := hprocess
  exact ⟨queue, holdsSender, suspensions, rfl⟩

theorem Parallel.link (h : Parallel whole s t) : t.link = s.link :=
  congrArg Process.link h.process.symm

/-- The link is no part of what is shared, so both sessions change it alike. -/
theorem parallel_withLink (h : Parallel whole s t) (link : Link) :
    Parallel whole (s.withLink link) (t.withLink link) := by
  obtain ⟨queue, holdsSender, suspensions, rfl⟩ := h.exists_eq
  exact ⟨rfl, h.isOpen, h.isOpen', h.view⟩

theorem parallel_record (h : Parallel whole s t) (entry : Entry) :
    Parallel whole (s.record entry) (t.record entry) := by
  unfold record
  rw [h.link]
  exact parallel_withLink h _

theorem parallel_note (h : Parallel whole s t) (notice : Logging.Notice) :
    Parallel whole (s.note notice) (t.note notice) := by
  unfold note
  rw [h.link]
  exact parallel_withLink h _

/-- Sending is not seen, neither in the state nor outside of it. -/
theorem parallel_invoke (h : Parallel whole s t) (task task' : Task) :
    Parallel whole (s.invoke task) (t.invoke task') := by
  rw [invoke_of_open h.isOpen, invoke_of_open h.isOpen']
  exact ⟨h.process, h.isOpen, h.isOpen', h.view⟩

/-- Whether a sender is left does not matter: a command that is sent is not seen. -/
theorem parallel_offer (h : Parallel whole s t) (command : Command) :
    Parallel whole (s.offer command) (t.offer command) := by
  unfold offer invokeCommand
  rw [invoke_of_open h.isOpen, invoke_of_open h.isOpen']
  split <;> split <;> exact ⟨h.process, h.isOpen, h.isOpen', h.view⟩

/-- Nor are several commands. -/
theorem parallel_offers (h : Parallel whole s t) (commands : List Command) :
    Parallel whole (commands.foldl offer s) (commands.foldl offer t) := by
  induction commands generalizing s t with
  | nil => exact h
  | cons command rest ih => exact ih (parallel_offer h command)

/-- Scopes that end alike in both sessions stay the same where they were. -/
theorem parallel_suspensions (h : Parallel whole s t) (f : Suspensions → Suspensions) :
    Parallel whole { s with suspensions := f s.suspensions }
      { t with suspensions := f t.suspensions } := by
  refine ⟨h.process, h.isOpen, h.isOpen', fun hw => ?_⟩
  have hview := h.view hw
  simp only [Session.view, View.mk.injEq] at hview ⊢
  exact ⟨hview.1, congrArg f hview.2⟩

/-- Work on the link finds the same link in both. -/
theorem uniform_onLink (work : Link → α × Link) : Uniform whole (onLink work) := by
  intro s t h
  rw [run_onLink, run_onLink, h.link]
  exact ⟨rfl, parallel_withLink h _⟩

/-! ## Serving requests -/

/-- Completing a request does the same to parallel sessions, whatever its sink does. -/
theorem uniform_complete (request : Request) (completion : Completion) :
    Uniform whole (complete request completion) := by
  intro s t h
  rw [run_complete, run_complete, afterSink_eq, afterSink_eq]
  have hended := parallel_suspensions (parallel_record h (.completed request completion))
    (request.sink.scopeCalls.foldl Suspensions.call)
  exact ⟨rfl, parallel_offers hended _⟩

/-- So does evaluating it on its own. -/
theorem uniform_evaluateIndividually (request : Request) :
    Uniform whole (evaluateIndividually request) :=
  .of_bind (uniform_onLink _) fun _ => uniform_complete _ _

/-- An attempt finds the same settings and the same link. -/
theorem uniform_evaluateBatch (helper : Helper) (context : Context) (requests : List Request) :
    Uniform whole (evaluateBatch helper context requests) := by
  have hattempt : Uniform whole (attemptBatch helper context requests) := by
    intro s t h
    obtain ⟨queue, holdsSender, suspensions, rfl⟩ := h.exists_eq
    exact ⟨rfl, parallel_withLink h _⟩
  refine .of_bind hattempt fun result => ?_
  cases result with
  | ok entries => exact .of_bind (.of_forM fun p => uniform_complete p.1 _) fun _ => .of_pure _
  | error fault => exact .of_bind (.of_modify fun s t h => parallel_note h _) fun _ => .of_pure _

/-- All ways to evaluate requests do the same to parallel sessions. -/
theorem uniform_evaluateAll (context : Context) (requests : List Request) :
    Uniform whole (evaluateAll context requests) := by
  have htogether : Uniform whole (evaluateTogether context requests) := by
    intro s t h
    rw [run_evaluateTogether, run_evaluateTogether,
      show t.probe = s.probe from congrArg Process.probe h.process.symm]
    cases s.probe.helper? with
    | none => exact ⟨rfl, h⟩
    | some helper => exact uniform_evaluateBatch helper context requests s t h
  refine .of_bind htogether fun ⟨completed, left⟩ => ?_
  cases completed with
  | true => exact .of_pure _
  | false => exact .of_forM uniform_evaluateIndividually

/-- Batches are not shared. -/
theorem uniform_takePending (scope : Nat) (h : Parallel whole s t) :
    (s.takePending scope).1 = (t.takePending scope).1 ∧
      Parallel whole (s.takePending scope).2 (t.takePending scope).2 := by
  obtain ⟨queue, holdsSender, suspensions, rfl⟩ := h.exists_eq
  exact ⟨rfl, rfl, h.isOpen, h.isOpen', h.view⟩

/-- So a flush does the same to parallel sessions. -/
theorem uniform_flush (context : Context) : Uniform whole (flush context) := by
  refine .of_bind (.of_modifyGet fun s t h => uniform_takePending _ h) fun requests => ?_
  split
  · exact .of_pure _
  · exact uniform_evaluateAll context requests

/-- The tasks that serve requests ask for nothing that is shared. -/
theorem uniform_of_serves {task : Task} (serves : task.isCommand = false) (cancelled : Bool) :
    Uniform whole (if cancelled then cancel task else run task) := by
  cases task with
  | command command scope => cases serves
  | flush context =>
    cases cancelled with
    | false => exact uniform_flush context
    | true =>
      refine .of_modify fun s t h => ?_
      obtain ⟨hrequests, htaken⟩ := uniform_takePending context.scope.id h
      simp only [discard, hrequests]
      exact parallel_note htaken _
  | individual request =>
    cases cancelled with
    | false => exact uniform_evaluateIndividually request
    | true => exact .of_pure _

/-! ## Steps -/

/-- Whether a function of the session gives the same for sessions that tasks cannot tell apart. -/
def UniformOn (f : Session → α × Session) : Prop :=
  ∀ s t, Parallel True s t → (f s).1 = (f t).1 ∧ Parallel True (f s).2 (f t).2

/-- Of two sessions that tasks cannot tell apart one is the other with another queue. -/
theorem Parallel.exists_queue (h : Parallel True s t) : ∃ queue holdsSender,
    t = { s with queue := queue, holdsSender := holdsSender } ∧
      queue.hasSender = s.queue.hasSender := by
  obtain ⟨queue, holdsSender, suspensions, rfl⟩ := h.exists_eq
  have hview := h.view trivial
  simp only [Session.view, View.mk.injEq] at hview
  obtain ⟨hsender, rfl⟩ := hview
  exact ⟨queue, holdsSender, rfl, hsender.symm⟩

theorem uniformOn_makeRequest (submission : Submission) : UniformOn (·.makeRequest submission) := by
  intro s t h
  obtain ⟨queue, holdsSender, rfl, -⟩ := h.exists_queue
  have hcontext : Session.contextAt? { s with queue := queue, holdsSender := holdsSender }
      submission.place = s.contextAt? submission.place := rfl
  simp only [makeRequest, hcontext]
  cases s.contextAt? submission.place with
  | none => exact ⟨rfl, h⟩
  | some context => exact ⟨rfl, rfl, h.isOpen, h.isOpen', h.view⟩

theorem uniformOn_askProbe (context : Context) : UniformOn (·.askProbe context) := by
  intro s t h
  obtain ⟨queue, holdsSender, rfl, -⟩ := h.exists_queue
  simp only [askProbe]
  split
  · exact ⟨rfl, rfl, h.isOpen, h.isOpen', h.view⟩
  · exact ⟨rfl, h⟩

/-- A request that joins a batch does so in both, and whether a flush was sent is not seen. -/
theorem parallel_join (h : Parallel True s t) (request : Request) :
    Parallel True (s.join request) (t.join request) := by
  obtain ⟨queue, holdsSender, rfl, -⟩ := h.exists_queue
  have hput : ∀ pending, Parallel True { s with pending := pending }
      { s with pending := pending, queue := queue, holdsSender := holdsSender } := fun _ =>
    ⟨rfl, h.isOpen, h.isOpen', h.view⟩
  simp only [join]
  split
  · exact hput _
  · exact parallel_invoke (hput _) _ _

/-- A submission asks whether a sender is left, and so needs the same view. -/
theorem parallel_submit (h : Parallel True s t) (request : Request) :
    Parallel True (s.submit request) (t.submit request) := by
  have hsender : t.queue.hasSender = s.queue.hasSender := congrArg View.hasSender (h.view trivial).symm
  unfold submit
  rw [hsender]
  split
  · have hrecord := parallel_record h (.accepted request)
    obtain ⟨hanswer, hasked⟩ := uniformOn_askProbe request.context _ _ hrecord
    by_cases ho : request.value.objectId?.isSome
    · rw [accept_of_object ho, accept_of_object ho, ← hanswer]
      split
      · exact parallel_join hasked request
      · exact parallel_invoke hasked _ _
    · rw [Option.not_isSome_iff_eq_none] at ho
      rw [accept_of_local ho, accept_of_local ho]
      exact parallel_invoke hrecord _ _
  · exact parallel_note h _

/-- Making a request looks for its scope, and so needs the same view. -/
theorem uniform_withRequest (submission : Submission) {work : Request → Action Result}
    (h : ∀ request, Uniform True (work request)) : Uniform True (withRequest submission work) := by
  refine .of_bind (.of_modifyGet (uniformOn_makeRequest submission)) fun made => ?_
  cases made with
  | none => exact .of_pure _
  | some request => exact h request

theorem uniform_withContext (place : Place) {work : Context → Action Result}
    (h : ∀ context, Uniform True (work context)) : Uniform True (withContext place work) := by
  intro s t hst
  obtain ⟨queue, holdsSender, rfl, -⟩ := hst.exists_queue
  have hcontext : Session.contextAt? { s with queue := queue, holdsSender := holdsSender } place =
    s.contextAt? place := rfl
  rw [run_withContext, run_withContext, hcontext]
  cases s.contextAt? place with
  | none => exact ⟨rfl, hst⟩
  | some context => exact h context _ _ hst

/-- A request made by hand ends alike in sessions with the same view. -/
theorem uniform_finish (request : Request) (ending : Ending) :
    Uniform True (finish request ending) := by
  cases ending with
  | individual => exact .of_bind (uniform_evaluateIndividually request) fun _ => .of_pure _
  | succeed text => exact .of_bind (uniform_complete request _) fun _ => .of_pure _
  | fail message => exact .of_bind (uniform_complete request _) fun _ => .of_pure _
  | drop => exact .of_pure _
  | describe => exact .of_pure _

theorem uniform_batchByHand (context : Context) (helper : Helper) (values : List (String × Value)) :
    Uniform True (batchByHand context helper values) := by
  have hplain : UniformOn (·.makePlain context values) := by
    intro s t h
    obtain ⟨queue, holdsSender, rfl, -⟩ := h.exists_queue
    exact ⟨rfl, rfl, h.isOpen, h.isOpen', h.view⟩
  refine .of_bind (.of_modifyGet hplain) fun requests => ?_
  exact .of_bind (uniform_evaluateBatch helper context requests) fun _ => .of_pure _

theorem uniform_callDirectly (call : Call) : Uniform True (callDirectly call) := by
  intro s t h
  show (callDirectly call s).1 = (callDirectly call t).1 ∧
    Parallel True (callDirectly call s).2 (callDirectly call t).2
  unfold callDirectly
  rw [h.link]
  rcases s.link.perform call with ⟨payload | outcome, link⟩
  · exact ⟨rfl, parallel_withLink h _⟩
  · exact ⟨rfl, parallel_withLink h _⟩

theorem uniform_changing {work : Session → Session}
    (h : ∀ s t, Parallel True s t → Parallel True (work s) (work t)) : Uniform True (changing work) :=
  .of_modifyGet fun s t hst => ⟨rfl, h s t hst⟩

/-- What is changed in the debuggee is not shared. -/
theorem uniform_preparing (work : Debuggee → Debuggee) : Uniform True (preparing work) := by
  refine uniform_changing fun s t h => ?_
  rw [h.link]
  exact parallel_withLink h _

theorem uniform_defining (work : Debuggee → Nat × Debuggee) : Uniform True (defining work) := by
  refine .of_modifyGet fun s t h => ?_
  rw [h.link]
  exact ⟨rfl, parallel_withLink h _⟩

/-- What the session tells about itself, it tells from what is not shared or from the view. -/
theorem uniform_telling {answer : Session → Result}
    (h : ∀ (s : Session) queue holdsSender, queue.hasSender = s.queue.hasSender →
      answer s = answer { s with queue := queue, holdsSender := holdsSender }) :
    Uniform True (telling answer) := by
  refine .of_modifyGet fun s t hst => ?_
  obtain ⟨queue, holdsSender, rfl, hsender⟩ := hst.exists_queue
  exact ⟨h s queue holdsSender hsender, hst⟩

/-- With the same view every step does the same to parallel sessions. -/
theorem uniform_perform (step : Step) : Uniform True (perform step) := by
  -- a step sees the queue only through the view, so each case hands on what the sessions share
  cases step with
  | attach =>
    refine .of_modifyGet fun s t h => ?_
    have hattached := parallel_suspensions h Suspensions.attach
    obtain ⟨queue, holdsSender, rfl, -⟩ := h.exists_queue
    exact ⟨rfl, hattached⟩
  | suspend attachment thread =>
    refine .of_modifyGet fun s t h => ?_
    have hsuspended := parallel_suspensions h (·.suspend attachment thread)
    obtain ⟨queue, holdsSender, rfl, -⟩ := h.exists_queue
    exact ⟨rfl, hsuspended⟩
  | invalidate index =>
    refine uniform_changing fun s t h => ?_
    rw [invalidateAt_eq, invalidateAt_eq]
    exact parallel_suspensions h (·.call (.invalidate index))
  | detach attachment => exact uniform_changing fun s t h => parallel_suspensions h (·.detach attachment)
  | scopes => exact uniform_telling fun _ _ _ _ => rfl
  | compareScopes a b => exact uniform_telling fun _ _ _ _ => rfl
  | submit submission =>
    exact uniform_withRequest submission fun request =>
      uniform_changing fun s t h => parallel_submit h request
  | submitRequest submission =>
    exact uniform_withRequest submission fun request =>
      uniform_changing fun s t h => parallel_submit h request
  | available place =>
    refine uniform_withContext place fun context => .of_modifyGet fun s t h => ?_
    obtain ⟨hanswer, hasked⟩ := uniformOn_askProbe context s t h
    exact ⟨congrArg Result.flag hanswer, hasked⟩
  | processDetached =>
    refine uniform_changing fun s t h => ?_
    have hnoted := parallel_note h .debuggeeDetached
    exact ⟨congrArg (fun p : Process => { p with probe := .unknown }) hnoted.process, h.isOpen,
      h.isOpen', h.view⟩
  | pendingLength scope => exact uniform_telling fun _ _ _ _ => rfl
  | isOpen => exact uniform_telling fun _ _ _ hsender => congrArg Result.flag hsender.symm
  | settings => exact uniform_telling fun _ _ _ _ => rfl
  | invoke command =>
    refine .of_modifyGet fun s t h => ⟨?_, parallel_offer h command⟩
    exact congrArg (fun v : View => Result.accepted v.hasSender) (h.view trivial)
  | panic payload => exact .of_throw payload
  | request submission ending =>
    exact uniform_withRequest submission fun request => uniform_finish request ending
  | evaluateBatch place helper values =>
    exact uniform_withContext place fun context => uniform_batchByHand context helper values
  | probe place =>
    refine uniform_withContext place fun context => .of_modifyGet fun s t h => ?_
    obtain ⟨queue, holdsSender, rfl, -⟩ := h.exists_queue
    exact ⟨rfl, rfl, h.isOpen, h.isOpen', h.view⟩
  | probeState => exact uniform_telling fun _ _ _ _ => rfl
  | probeDetach =>
    refine uniform_changing fun s t h => ?_
    exact ⟨congrArg (fun p : Process => { p with spareProbe := .unknown }) h.process, h.isOpen,
      h.isOpen', h.view⟩
  | defineClass name => exact uniform_defining _
  | defineMethod owner name signature => exact uniform_defining _
  | setDisplay id outcome => exact uniform_preparing _
  | fail operation error => exact uniform_preparing _
  | failRelease error =>
    refine uniform_changing fun s t h => ?_
    rw [h.link]
    exact parallel_withLink h _
  | setHandler handler => exact uniform_preparing _
  | isPinned id => exact uniform_telling fun _ _ _ _ => rfl
  | displayCalls id => exact uniform_telling fun _ _ _ _ => rfl
  | call call => exact uniform_callDirectly call

/-- So do the steps of a command, up to the first one that panics. -/
theorem uniform_runCommand (name : String) (steps : List Step) (cancelled : Bool) :
    Uniform True (runCommand name steps cancelled) := by
  have hemit : ∀ report, Uniform True (modify (·.emit report) : Action PUnit) := fun report =>
    .of_modify fun s t h => parallel_record h _
  refine .of_bind (hemit _) fun _ => .of_forM fun step => ?_
  exact .of_bind (uniform_perform step) fun result => hemit _

/-- What a task does depends on nothing that is shared but what it can find. -/
theorem uniform_act (task : Task) (cancelled : Bool) :
    Uniform True (if cancelled then cancel task else run task) := by
  cases task with
  | flush context => exact uniform_of_serves rfl cancelled
  | individual request => exact uniform_of_serves rfl cancelled
  | command command scope =>
    cases cancelled with
    | false => exact uniform_runCommand _ _ _
    | true =>
      simp only [if_true, cancel]
      split
      · exact uniform_runCommand _ _ _
      · exact .of_pure _

/-- A panic is contained alike in both. -/
theorem parallel_contain {action : Action Unit} (uniform : Uniform whole action) (cancelled : Bool)
    (h : Parallel whole s t) : Parallel whole (contain cancelled action s) (contain cancelled action t) := by
  obtain ⟨hresult, hparallel⟩ := uniform s t h
  unfold contain
  rcases hs : action.run.run s with ⟨payload | x, s'⟩ <;>
    rcases ht : action.run.run t with ⟨payload' | x', t'⟩ <;>
    rw [hs, ht] at hresult hparallel <;> cases hresult
  · exact parallel_note hparallel _
  · exact hparallel

/-! ## Executions -/

/-- The tasks of sessions as a workload: a task is run or cancelled, and its panic is caught. -/
def workload : Workload Task View Process where
  scope? := Task.scope?
  execute cancelled task seen p :=
    (contain cancelled (if cancelled then cancel task else run task) (within p seen)).process

/-- What is executed in a run of a session, each time with what the task found. -/
def executions (s : Session) (events : List Event) : List (Execution Task View) :=
  (s.turns events).filterMap fun t =>
    t.queue.waiting.head?.map fun task => ⟨task, t.isCancelled task, t.view⟩

/-- A session with an open queue is parallel to the one that has just its state and its view. -/
theorem parallel_within (isOpen : s.queue.isOpen = true) :
    Parallel True s (within s.process s.view) := by
  refine ⟨rfl, isOpen, rfl, fun _ => ?_⟩
  unfold view within CommandQueue.hasSender
  cases decide (0 < s.queue.senders) <;> rfl

/-- A turn executes a task on the part of the session that tasks work on. -/
theorem process_turn {task : Task} {rest : List Task} (isOpen : s.queue.isOpen = true)
    (waiting : s.queue.waiting = task :: rest) :
    (s.after .turn).process = workload.execute (s.isCancelled task) task s.view s.process := by
  have htaken : Parallel True (s.taken rest) (within s.process s.view) := parallel_within isOpen
  rw [after_turn_eq_contain waiting]
  exact (parallel_contain (uniform_act task _) _ htaken).process

/-- What a task that serves requests makes of the state does not depend on what it could find. -/
theorem execute_of_serves {task : Task} (serves : task.isCommand = false) (cancelled : Bool)
    (seen seen' : View) (p : Process) :
    workload.execute cancelled task seen p = workload.execute cancelled task seen' p := by
  have hparallel : Parallel False (within p seen) (within p seen') := ⟨rfl, rfl, rfl, False.elim⟩
  exact (parallel_contain (uniform_of_serves serves cancelled) cancelled hparallel).process

/-- The executions of a run are those of its events in order. -/
theorem executions_cons (s : Session) (event : Event) (rest : List Event) :
    s.executions (event :: rest) = s.executions [event] ++ (s.after event).executions rest := by
  have happend := s.turns_append [event] rest
  rw [executions, show event :: rest = [event] ++ rest from rfl, happend, List.filterMap_append]
  rfl

/-- A turn executes the first task that waits, with what it finds outside. -/
theorem executions_turn_of_cons {task : Task} {rest : List Task}
    (waiting : s.queue.waiting = task :: rest) :
    s.executions [.turn] = [⟨task, s.isCancelled task, s.view⟩] := by
  simp [executions, turns, waiting]

theorem executions_turn_of_nil (waiting : s.queue.waiting = []) : s.executions [.turn] = [] := by
  simp [executions, turns, waiting]

/-- What turns make of the state is what the executions in them make of it, one after the other. -/
theorem process_turns (n : Nat) (isOpen : s.queue.isOpen = true) :
    (s.play (List.replicate n .turn)).process =
      (s.executions (List.replicate n .turn)).foldl workload.apply s.process := by
  induction n generalizing s with
  | zero => rfl
  | succ n ih =>
    rw [List.replicate_succ, play_cons, executions_cons, List.foldl_append,
      ih ((isOpen_turn s).trans isOpen)]
    congr 1
    cases hw : s.queue.waiting with
    | nil => rw [after_turn_of_nil hw, executions_turn_of_nil hw, List.foldl_nil]
    | cons task rest =>
      rw [process_turn isOpen hw, executions_turn_of_cons hw]
      rfl

/-- What is executed when the queue is run. -/
def pendingExecutions (s : Session) : List (Execution Task View) :=
  s.executions (List.replicate s.runPending.1 .turn)

/-- Running the queue until it is empty applies its executions one after the other. -/
theorem process_runPending (isOpen : s.queue.isOpen = true) :
    s.runPending.2.process = s.pendingExecutions.foldl workload.apply s.process := by
  have hplay : s.runPending.2 = s.play (List.replicate s.runPending.1 .turn) := drain_eq_play s.work s
  rw [hplay]
  exact process_turns _ isOpen

/-- Whether two executions are of the same task with the same decision. A command of the embedder has to find
the same in both, while it does not matter what the session's own tasks find. -/
def SameExecution (e e' : Execution Task View) : Prop :=
  e.command = e'.command ∧ e.cancelled = e'.cancelled ∧ (e.command.isCommand = true → e.seen = e'.seen)

/-- Executions that differ only in what a task does not depend on do the same to the state. -/
theorem apply_of_same {e e' : Execution Task View} (h : SameExecution e e') (p : Process) :
    workload.apply p e = workload.apply p e' := by
  obtain ⟨task, cancelled, seen⟩ := e
  obtain ⟨task', cancelled', seen'⟩ := e'
  obtain ⟨rfl, rfl, hseen⟩ := h
  by_cases hc : task.isCommand = true
  · obtain rfl : seen = seen' := hseen hc
    rfl
  · exact execute_of_serves (Bool.eq_false_iff.2 hc) cancelled seen seen' p

/-- So do whole lists of them. -/
theorem foldl_of_same {done done' : List (Execution Task View)}
    (h : List.Forall₂ SameExecution done done') (p : Process) :
    done.foldl workload.apply p = done'.foldl workload.apply p := by
  induction h generalizing p with
  | nil => rfl
  | cons hfirst _ ih =>
    rw [List.foldl_cons, List.foldl_cons, apply_of_same hfirst]
    exact ih _

end Session
end BatchStringify
