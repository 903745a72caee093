import BatchStringify.Proofs.Manager.Processes
import BatchStringify.Proofs.Manager.Runs
import BatchStringify.Proofs.ScopeHistory

/-!
# Worker threads of sessions

The worker thread of a session is a manager that executes tasks of sessions. Nobody sends to the queue without
a sender (`onlySends_turn`), so each turn of the queue is a few acts of the manager: it takes the task, upgrades
the sender of the session wherever the task sends something, and finishes the task.
-/

namespace BatchStringify.Session

/-! ## Sending takes a sender -/

/-- How everything but the ends of the queue changes a session: the embedder keeps its sender, and if no sender
is left nothing is sent. -/
structure OnlySends (s s' : Session) : Prop where
  holdsSender : s'.holdsSender = s.holdsSender
  queue : s.queue.hasSender = false → s'.queue = s.queue

instance : Std.Refl OnlySends := ⟨fun _ => ⟨rfl, fun _ => rfl⟩⟩

instance : IsTrans Session OnlySends where
  trans := by
    intro s s' s'' h h'
    refine ⟨h'.holdsSender.trans h.holdsSender, fun hs => ?_⟩
    have hqueue := h.queue hs
    rw [h'.queue (by rw [hqueue, hs]), hqueue]

variable {s : Session}

/-- A command is sent only while there is a sender, and the session keeps its own. -/
theorem onlySends_offer (s : Session) (command : Command) : OnlySends s (s.offer command) := by
  unfold offer
  by_cases hs : s.queue.hasSender = true
  · rw [if_pos hs]
    unfold invokeCommand invoke
    refine ⟨?_, fun hn => by rw [hs] at hn; cases hn⟩
    split <;> rfl
  · rw [if_neg hs]
    exact Std.Refl.refl s

/-- So completing a request only sends. -/
theorem onlySends_complete (request : Request) (completion : Completion) :
    Along OnlySends (complete request completion) :=
  along_complete (fun _ => ⟨rfl, fun _ => rfl⟩) onlySends_offer

theorem onlySends_askProbe (s : Session) (context : Context) :
    OnlySends s (s.askProbe context).2 := by
  unfold askProbe
  split <;> exact ⟨rfl, fun _ => rfl⟩

theorem holdsSender_invoke (s : Session) (task : Task) :
    (s.invoke task).holdsSender = s.holdsSender := by
  unfold invoke
  dsimp only
  split <;> rfl

/-- A submission asks for a sender first. -/
theorem onlySends_submit (s : Session) (request : Request) : OnlySends s (s.submit request) := by
  have hholds : ∀ t : Session, (t.accept request).holdsSender = t.holdsSender := by
    intro t
    have hask := (onlySends_askProbe t request.context).holdsSender
    rcases t.accept_cases request with ⟨t', rfl | rfl, ha⟩ | ⟨-, -, ha⟩ <;> rw [ha]
    · exact holdsSender_invoke _ _
    · rw [holdsSender_invoke, hask]
    · rw [← hask]
      unfold join
      dsimp only
      split
      · rfl
      · exact holdsSender_invoke _ _
  unfold submit
  by_cases hs : s.queue.hasSender = true
  · rw [if_pos hs]
    exact ⟨hholds _, fun hn => by rw [hs] at hn; cases hn⟩
  · rw [if_neg hs]
    exact ⟨rfl, fun _ => rfl⟩

/-- A batch made by hand only sends by way of the sinks of its requests. -/
theorem onlySends_batchByHand (context : Context) (helper : Helper) (values : List (String × Value)) :
    Along OnlySends (batchByHand context helper values) := by
  intro s
  have hmade : OnlySends s (s.makePlain context values).2 := ⟨rfl, fun _ => rfl⟩
  have hbatch : Along OnlySends (evaluateBatch helper context (s.makePlain context values).1) :=
    fun _ => along_evaluateBatch (fun _ => ⟨rfl, fun _ => rfl⟩) (fun r _ => onlySends_complete r)
      context
  replace hbatch := hbatch (s.makePlain context values).2
  rw [run_batchByHand]
  rcases hr : (evaluateBatch helper context (s.makePlain context values).1).run.run
    (s.makePlain context values).2 with ⟨payload | ⟨evaluated, left⟩, s'⟩ <;> rw [hr] at hbatch <;>
    exact IsTrans.trans _ _ _ hmade hbatch

theorem onlySends_callDirectly (call : Call) : Along OnlySends (callDirectly call) := by
  intro s
  show OnlySends s (callDirectly call s).2
  unfold callDirectly
  rcases s.link.perform call with ⟨payload | outcome, link⟩ <;> exact ⟨rfl, fun _ => rfl⟩

/-- No step takes from the queue or gives up the sender of the session. -/
theorem onlySends_perform (step : Step) : Along OnlySends (perform step) := by
  have hrequest : ∀ (submission : Submission) {work : Request → Action Result},
      (∀ request, Along OnlySends (work request)) → Along OnlySends (withRequest submission work) :=
    along_withRequest fun _ => ⟨rfl, fun _ => rfl⟩
  cases step with
  | invalidate index =>
    intro s
    show OnlySends s (s.invalidateAt index)
    rw [invalidateAt_eq]
    exact ⟨rfl, fun _ => rfl⟩
  | submit submission => exact hrequest submission fun request s => onlySends_submit s request
  | submitRequest submission => exact hrequest submission fun request s => onlySends_submit s request
  | available place =>
    exact along_withContext place fun context s => onlySends_askProbe s context
  | invoke command => exact fun s => onlySends_offer s command
  | panic payload => exact .of_throw payload
  | request submission ending =>
    refine hrequest submission fun request => ?_
    exact along_finish (onlySends_complete request) fun _ =>
      along_evaluateIndividually (fun _ => ⟨rfl, fun _ => rfl⟩) (onlySends_complete request)
  | evaluateBatch place helper values =>
    exact along_withContext place fun context => onlySends_batchByHand context helper values
  | probe place => exact along_withContext place fun context s => ⟨rfl, fun _ => rfl⟩
  | call call => exact onlySends_callDirectly call
  | _ => exact fun s => ⟨rfl, fun _ => rfl⟩

/-- A turn that has taken its task only sends. -/
theorem onlySends_turn {task : Task} {rest : List Task} (waiting : s.queue.waiting = task :: rest) :
    OnlySends (s.taken rest) (s.after .turn) := by
  have hserved : task.isCommand = false → OnlySends (s.released task rest) (s.after .turn) :=
    along_turn (fun _ => ⟨rfl, fun _ => rfl⟩) (fun _ _ => ⟨rfl, fun _ => rfl⟩)
      (fun r _ => onlySends_complete r) (fun _ _ => ⟨rfl, fun _ => rfl⟩) waiting
  cases task with
  | command command scope =>
    exact along_turn_command waiting (fun _ _ _ => ⟨rfl, fun _ => rfl⟩)
      (fun _ _ _ => ⟨rfl, fun _ => rfl⟩) fun p _ name =>
        along_stepped (onlySends_perform p.2 p.1) fun _ _ => ⟨rfl, fun _ => rfl⟩
  | flush context => exact ⟨(hserved rfl).holdsSender, (hserved rfl).queue⟩
  | individual request => exact hserved rfl

/-- In a turn tasks are sent, but only while there is a sender. -/
theorem exists_sent_turn {task : Task} {rest : List Task} (waiting : s.queue.waiting = task :: rest) :
    ∃ sent : List Task, (s.after .turn).queue = sent.foldl CommandQueue.send (s.taken rest).queue ∧
      (sent ≠ [] → s.queue.hasSender = true) := by
  obtain ⟨sent, hsent⟩ := (enqueues_turn waiting).queue
  rw [queue_begun] at hsent
  refine ⟨sent, hsent, fun hne => ?_⟩
  by_contra hs
  have hqueue := (onlySends_turn waiting).queue (Bool.eq_false_iff.2 hs)
  rw [hsent, CommandQueue.foldl_send] at hqueue
  have hlength := congrArg (fun q : CommandQueue Task => q.sent.length) hqueue
  simp only [List.length_append] at hlength
  exact hne (List.length_eq_zero_iff.1 (by omega))

/-- The embedder's sender is the only one that lasts. -/
theorem senders_play (past : List Event) (h : s.queue.senders = s.holdsSender.toNat) :
    (s.play past).queue.senders = (s.play past).holdsSender.toNat := by
  induction past generalizing s with
  | nil => exact h
  | cons event rest ih =>
    have hsent : ∀ {t : Session}, (∃ sent : List Task, t.queue = sent.foldl CommandQueue.send s.queue) →
        t.holdsSender = s.holdsSender → t.queue.senders = t.holdsSender.toNat := by
      rintro t ⟨sent, hsent⟩ hholds
      rw [hsent, CommandQueue.foldl_send, hholds]
      exact h
    refine ih ?_
    cases event with
    | step step => exact hsent (enqueues_perform s step).queue (onlySends_perform step s).holdsSender
    | turn =>
      cases hw : s.queue.waiting with
      | nil =>
        rw [after_turn_of_nil hw]
        exact h
      | cons task rest =>
        obtain ⟨sent, hsent, -⟩ := exists_sent_turn hw
        rw [hsent, CommandQueue.foldl_send, (onlySends_turn hw).holdsSender]
        exact h
    | dropSender =>
      simp only [after, dropOwnSender]
      split <;> rename_i hholds
      · simp [CommandQueue.dropSender, h, hholds]
      · exact h
    | dropQueue => exact h

theorem holdsSender_dropOwnSender (s : Session) : s.dropOwnSender.holdsSender = false := by
  unfold dropOwnSender
  split
  · rfl
  · rename_i hholds
    exact Bool.eq_false_iff.2 hholds

/-! ## Sessions as managers -/

/-- Whether a manager is where a session is: the same tasks wait and carry no senders, and the same senders and
scopes are there. -/
structure Mirrors (s : Session) (m : Manager Task View Process) : Prop where
  isOpen : s.queue.isOpen = true
  isOpen' : m.queue.isOpen = true
  waiting : m.queue.waiting = s.queue.waiting.map (⟨·, 0⟩)
  senders : m.queue.senders = s.queue.senders
  elsewhere : m.elsewhere = s.queue.senders
  weak : 0 < m.weak
  suspensions : m.suspensions = s.suspensions
  state : m.state = s.process
  idle : m.job = none
  inHand : m.inHand = 0
  running : m.exited = false

/-- The manager that executes the tasks of a session, which has a sender that does not keep the queue open. -/
def manager (s : Session) : Manager Task View Process :=
  .spawn (s.queue.waiting.map (⟨·, 0⟩)) s.queue.senders 1 s.suspensions s.process

/-- The tasks of a session carry no senders with them. -/
theorem carried_tasks (tasks : List Task) :
    Manager.carried (tasks.map (⟨·, 0⟩ : Task → Parcel Task)) = 0 := by
  induction tasks with
  | nil => rfl
  | cons task rest ih => rw [List.map_cons, Manager.carried_cons, ih]

/-- A session with an open queue is mirrored by a manager. -/
theorem mirrors_manager (isOpen : s.queue.isOpen = true) : Mirrors s s.manager where
  isOpen := isOpen
  isOpen' := rfl
  waiting := rfl
  senders := by
    show s.queue.senders + _ = _
    rw [carried_tasks, Nat.add_zero]
  elsewhere := rfl
  weak := Nat.one_pos
  suspensions := rfl
  state := rfl
  idle := rfl
  inHand := rfl
  running := rfl

/-- The acts by which the task at hand sends another one: the sender is only there as long as it is needed. -/
def sending (task : Task) : List (Act Task View) :=
  [.handle (.upgrade .command), .send .command task 0, .handle (.drop .command)]

/-- Calls about scopes are acts of a run. -/
theorem run_scopes (calls : List ScopeCall) (m : Manager Task View Process) :
    workload.run (calls.map .scope) m =
      some { m with suspensions := calls.foldl Suspensions.call m.suspensions } := by
  induction calls generalizing m with
  | nil => rfl
  | cons call rest ih =>
    rw [List.map_cons, Workload.run_cons, Workload.step, Option.bind_some, ih]
    rfl

/-- A command at hand can send a task while there is a sender to make a copy of. -/
theorem run_sending {m : Manager Task View Process} {job : Job Task} (atHand : m.job = some job)
    (weak : 0 < m.weak) (hasSender : m.queue.hasSender = true) (inHand : m.inHand = 0) (task : Task) :
    workload.run (sending task) m = some { m with queue := m.queue.send ⟨task, 0⟩ } := by
  simp [sending, Workload.step, Manager.handle, Manager.held, Manager.isPresent, Manager.withHeld,
    CommandQueue.upgrade?, CommandQueue.addSender, CommandQueue.send, CommandQueue.dropSender, *]

/-- It can send several tasks one after the other. -/
theorem run_sendings {m : Manager Task View Process} {job : Job Task} (atHand : m.job = some job)
    (weak : 0 < m.weak) (inHand : m.inHand = 0) {tasks : List Task}
    (hasSender : tasks ≠ [] → m.queue.hasSender = true) :
    workload.run (tasks.flatMap sending) m = some { m with
      queue := (tasks.map (⟨·, 0⟩ : Task → Parcel Task)).foldl CommandQueue.send m.queue } := by
  induction tasks generalizing m with
  | nil => rfl
  | cons task rest ih =>
    have hs := hasSender (List.cons_ne_nil _ _)
    rw [List.flatMap_cons, Workload.run_append, run_sending atHand weak hs inHand, Option.bind_some]
    exact ih atHand weak inHand fun _ => hs

/-- A turn of the queue is what the manager does when it executes the task. -/
theorem exists_acts_turn {m : Manager Task View Process} (h : Mirrors s m) :
    ∃ acts m', workload.run acts m = some m' ∧ Mirrors (s.after .turn) m' ∧
      m'.executed = m.executed ++ s.executions [.turn] := by
  cases hw : s.queue.waiting with
  | nil =>
    rw [after_turn_of_nil hw, executions_turn_of_nil hw]
    exact ⟨[], m, rfl, h, (List.append_nil _).symm⟩
  | cons task rest =>
    obtain ⟨sent, hsent, hsender⟩ := exists_sent_turn hw
    have hwaiting := h.waiting
    rw [hw, List.map_cons] at hwaiting
    have hcancelled : workload.isCancelled m.suspensions task = s.isCancelled task := by
      rw [h.suspensions]
      rfl
    -- the acts: take the task, make its calls of scopes, send what it sends, finish
    have htake : workload.run [.take] m = some { m with
        queue := { m.queue with waiting := rest.map (⟨·, 0⟩) }
        inHand := 0
        job := some ⟨task, s.isCancelled task⟩ } := by
      simp [Workload.step, h.idle, CommandQueue.receive?, hwaiting, hcancelled]
    have hscopes := Workload.run_trans htake (run_scopes (s.scopeCallsAt .turn) _)
    have hleft : sent ≠ [] → m.queue.hasSender = true := fun hne => by
      rw [CommandQueue.hasSender, h.senders]
      exact hsender hne
    have hsendings := Workload.run_trans hscopes
      (run_sendings rfl (by exact h.weak) rfl (by exact hleft))
    have hfinish := Workload.run_trans hsendings (Manager.run_finish rfl s.view)
    refine ⟨_, _, hfinish, ?_, ?_⟩
    · rw [CommandQueue.foldl_send] at hsent
      refine ⟨(isOpen_turn s).trans h.isOpen, ?_, ?_, ?_, ?_, h.weak, ?_, ?_, rfl, rfl, h.running⟩
      · rw [CommandQueue.foldl_send]
        exact h.isOpen'
      · rw [CommandQueue.foldl_send, hsent]
        simp [h.isOpen, h.isOpen', taken]
      · rw [CommandQueue.foldl_send, hsent]
        exact h.senders
      · rw [hsent]
        exact h.elsewhere
      · rw [suspensions_after, h.suspensions]
      · rw [process_turn h.isOpen hw, h.state]
    · rw [executions_turn_of_cons hw]

/-- Turns of a session are acts of a run, with the same executions. -/
theorem exists_acts_turns {m : Manager Task View Process} (n : Nat) (h : Mirrors s m) :
    ∃ acts m', workload.run acts m = some m' ∧ Mirrors (s.play (List.replicate n .turn)) m' ∧
      m'.executed = m.executed ++ s.executions (List.replicate n .turn) := by
  induction n generalizing s m with
  | zero => exact ⟨[], m, rfl, h, (List.append_nil _).symm⟩
  | succ n ih =>
    obtain ⟨acts, t, hrun, hmirrors, hexecuted⟩ := exists_acts_turn h
    obtain ⟨more, m', hrun', hmirrors', hexecuted'⟩ := ih hmirrors
    refine ⟨acts ++ more, m', Workload.run_trans hrun hrun', hmirrors', ?_⟩
    rw [hexecuted', hexecuted, List.replicate_succ, executions_cons s .turn (List.replicate n .turn),
      List.append_assoc]

/-- So is giving up the sender of the session. -/
theorem exists_acts_dropOwnSender {m : Manager Task View Process} (h : Mirrors s m)
    (senders : s.queue.senders = s.holdsSender.toNat) :
    ∃ acts m', workload.run acts m = some m' ∧ Mirrors s.dropOwnSender m' ∧
      m'.executed = m.executed := by
  unfold dropOwnSender
  by_cases hholds : s.holdsSender = true
  · rw [hholds, Bool.toNat_true] at senders
    have hdrop : workload.run [.handle (.drop .elsewhere)] m = some { m with
        queue := m.queue.dropSender
        elsewhere := m.elsewhere - 1 } := by
      simp [Workload.step, Manager.handle, Manager.held, Manager.withHeld, h.elsewhere, senders]
    refine ⟨_, _, hdrop, ?_, rfl⟩
    rw [if_pos hholds]
    exact ⟨h.isOpen, h.isOpen', h.waiting, congrArg (· - 1) h.senders, congrArg (· - 1) h.elsewhere,
      h.weak, h.suspensions, h.state, h.idle, h.inHand, h.running⟩
  · rw [if_neg hholds]
    exact ⟨[], m, rfl, h, rfl⟩

/-- What a worker thread makes of a session is what a manager makes of it in one of its runs, which executes
exactly what running the queue executes. -/
theorem exists_acts_workThread (isOpen : s.queue.isOpen = true)
    (senders : s.queue.senders = s.holdsSender.toNat) (keepOpen : Bool) :
    ∃ acts m, workload.run acts s.manager = some m ∧ m.exited = true ∧
      m.executed = (if keepOpen then s else s.dropOwnSender).pendingExecutions ∧
      m.join? = some (s.workThread keepOpen).process := by
  -- the embedder drops its sender before the thread starts, or not
  obtain ⟨before, m₁, hrun₁, hmirrors₁, hexecuted₁⟩ : ∃ acts m, workload.run acts s.manager = some m ∧
      Mirrors (if keepOpen then s else s.dropOwnSender) m ∧ m.executed = [] := by
    cases keepOpen with
    | true => exact ⟨[], s.manager, rfl, mirrors_manager isOpen, rfl⟩
    | false => exact exists_acts_dropOwnSender (mirrors_manager isOpen) senders
  have hsenders₁ : (if keepOpen then s else s.dropOwnSender).queue.senders =
      (if keepOpen then s else s.dropOwnSender).holdsSender.toNat := by
    cases keepOpen with
    | true => exact senders
    | false => exact senders_play [.dropSender] senders
  unfold workThread
  generalize (if keepOpen then s else s.dropOwnSender) = u at hmirrors₁ hsenders₁ ⊢
  -- it executes what waits
  obtain ⟨turns, m₂, hrun₂, hmirrors₂, hexecuted₂⟩ := exists_acts_turns u.runPending.1 hmirrors₁
  have hplay : u.runPending.2 = u.play (List.replicate u.runPending.1 .turn) := drain_eq_play u.work u
  rw [← hplay] at hmirrors₂
  have hsenders₂ := senders_play (List.replicate u.runPending.1 .turn) hsenders₁
  rw [← hplay] at hsenders₂
  -- and ends when the sender is dropped, at the latest now
  obtain ⟨last, m₃, hrun₃, hmirrors₃, hexecuted₃⟩ := exists_acts_dropOwnSender hmirrors₂ hsenders₂
  have hwaiting : u.runPending.2.dropOwnSender.queue.waiting = [] := by
    have hrun := waiting_runPending u
    unfold dropOwnSender
    split <;> exact hrun
  have hnone : u.runPending.2.dropOwnSender.queue.senders = 0 := by
    refine Eq.trans (senders_play [.dropSender] hsenders₂) ?_
    exact congrArg Bool.toNat (holdsSender_dropOwnSender _)
  have hexit : workload.run [.exit] m₃ = some { m₃ with queue := m₃.queue.close, exited := true } := by
    simp [Workload.step, Manager.isDrained, CommandQueue.hasSender, hmirrors₃.idle, hmirrors₃.running,
      hmirrors₃.waiting, hmirrors₃.senders, hwaiting, hnone]
  refine ⟨_, _, Workload.run_trans hrun₁ (Workload.run_trans hrun₂ (Workload.run_trans hrun₃ hexit)),
    rfl, ?_, congrArg some hmirrors₃.state⟩
  rw [hexecuted₃, hexecuted₂, hexecuted₁, List.nil_append]
  rfl

end BatchStringify.Session
