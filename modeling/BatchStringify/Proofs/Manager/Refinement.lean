import BatchStringify.Proofs.Manager.Threads

/-!
# The manager thread refines the inline queue

All that was said of managers holds for every workload and every run (`Manager.Refines`). For sessions it makes
the worker thread and the queue that is run in place two ways to the same state: the thread ends with what
running the queue makes of the state, whenever the same tasks are executed with the same decisions, and what
`Session.workThread` gives is what a manager gives in one of its runs (`manager_refines_queue`).
-/

namespace BatchStringify

/-- At every moment of every run, a manager has executed a first part of the commands ever sent, in the order in
which they were sent, each run or cancelled as its scope was valid or not when it was taken, and its state is
what these executions make of the first one. Its thread can end exactly if it is idle, its queue is empty and no
sender keeps it open; it comes to that on its own as soon as only commands have such senders; and then it has
executed everything that was ever sent, and waiting for it gives its state. Once the last sender that keeps the
queue open is gone, no other can be made out of those that do not. If a thread that executes tasks of sessions
has ended, and running the queue in place executes the same tasks with the same decisions, then both come to
the same state. The worker thread of any session is such a thread. -/
theorem manager_refines_queue :
    (∀ {κ ω σ : Type} (w : Workload κ ω σ) (parcels : List (Parcel κ)) (elsewhere weak : Nat)
      (u : Suspensions) (initial : σ) (acts : List (Act κ ω)) (m : Manager κ ω σ),
      w.run acts (.spawn parcels elsewhere weak u initial) = some m →
      Manager.Refines w (.spawn parcels elsewhere weak u initial) acts m) ∧
    (∀ (t : Session) (parcels : List (Parcel Task)) (elsewhere weak : Nat) (u : Suspensions)
      (acts : List (Act Task View)) (m : Manager Task View Process),
      t.queue.isOpen = true →
      Session.workload.run acts (.spawn parcels elsewhere weak u t.process) = some m →
      m.exited = true → List.Forall₂ Session.SameExecution t.pendingExecutions m.executed →
      m.join? = some t.runPending.2.process) ∧
    (∀ (debuggee : Debuggee) (settings : DebuggerSettings) (connection : Connection)
      (past : List Session.Event) (keepOpen : Bool),
      let s := (Session.start debuggee settings connection).play past
      s.queue.isOpen = true → ∃ acts m, Session.workload.run acts s.manager = some m ∧
        m.exited = true ∧
        m.executed = (if keepOpen then s else s.dropOwnSender).pendingExecutions ∧
        m.join? = some (s.workThread keepOpen).process) := by
  refine ⟨fun w parcels elsewhere weak u initial acts m h => Manager.refines_run h, ?_, ?_⟩
  · intro t parcels elsewhere weak u acts m isOpen hrun hexited same
    have hm := Manager.refines_run hrun
    have hstate : m.state = t.runPending.2.process := by
      rw [hm.state, Session.process_runPending isOpen, Session.foldl_of_same same]
      rfl
    rw [← hstate]
    exact (hm.joined hexited [] m rfl).1
  · intro debuggee settings connection past keepOpen s isOpen
    exact Session.exists_acts_workThread isOpen (Session.senders_play past rfl) keepOpen

/-- Commands that leave their names in a log. -/
def logging : Workload (String × Option Scope) Unit (List String) where
  scope? := Prod.snd
  execute cancelled command _ log :=
    log ++ [(if cancelled then "cancelled " else "run ") ++ command.1]

/-- The first command carries a sender, the second belongs to a scope, and then the sender that sent both is
dropped. The first command sends a third one, the scope ends, and the last sender is dropped. -/
def lastSenderInQueue : List (Act (String × Option Scope) Unit) :=
  [.handle (.downgrade .elsewhere), .handle (.clone .elsewhere),
    .send .elsewhere ("first", none) 1, .send .elsewhere ("second", some ⟨1, none, 0⟩) 0,
    .handle (.drop .elsewhere), .take, .send .command ("child", none) 0, .scope (.invalidate 0),
    .handle (.drop .command), .finish ()]

/-- When the first command has ended no sender is left. The thread executes the other two on its own, which are
all that were sent, and ends, although there is a sender that does not keep the queue open. A session whose
commands do the like comes to the same state in a thread as in place. -/
theorem manager_refines_queue_lastSenderInQueue :
    (∃ m, logging.run lastSenderInQueue
        (.spawn [] 1 0 { scopes := [⟨1, none, 0⟩] } []) = some m ∧
      m.state = ["run first"] ∧ m.weak = 1 ∧ m.queue.upgrade?.isNone = true ∧
      Manager.CanEnd logging m ∧
      ∃ m', logging.run [.take, .finish (), .take, .finish (), .exit] m = some m' ∧
        m'.join? = some ["run first", "cancelled second", "run child"] ∧
        m'.queue.upgrade?.isNone = true) ∧
    (let s := (Session.start {} {} .localProcess).play Session.threeCommands
      ∃ acts m, Session.workload.run acts s.manager = some m ∧ m.executed.length = 4 ∧
        m.join? = some s.runPending.2.process) := by
  obtain ⟨hrefines, hinline, hthread⟩ := manager_refines_queue
  constructor
  · have hrun : ((logging.run lastSenderInQueue
        (.spawn [] 1 0 { scopes := [⟨1, none, 0⟩] } [])).map fun m =>
          (m.state, m.weak, m.strong, m.elsewhere, m.exited)) =
        some (["run first"], 1, 0, 0, false) := by decide +kernel
    obtain ⟨m, hm, hstate⟩ := Option.map_eq_some_iff.1 hrun
    simp only [Prod.mk.injEq] at hstate
    obtain ⟨hstate, hweak, hstrong, helsewhere, hexited⟩ := hstate
    have hr := hrefines _ _ _ _ _ _ _ _ hm
    have hrest : ((logging.run (lastSenderInQueue ++ [.take, .finish (), .take, .finish (), .exit])
        (.spawn [] 1 0 { scopes := [⟨1, none, 0⟩] } [])).map fun m => (m.exited, m.state)) =
        some (true, ["run first", "cancelled second", "run child"]) := by decide +kernel
    obtain ⟨m', hm', hstate'⟩ := Option.map_eq_some_iff.1 hrest
    simp only [Prod.mk.injEq] at hstate'
    obtain ⟨hexited', hstate'⟩ := hstate'
    have hlater := hm'
    rw [Workload.run_append, hm, Option.bind_some] at hlater
    have hjoined := ((hrefines _ _ _ _ _ _ _ _ hm').joined hexited' [] m' rfl).1
    refine ⟨m, hm, hstate, hweak, ?_, hr.canEnd () hexited helsewhere, m', hlater, ?_, ?_⟩
    · rw [(hr.revoked hstrong [] m rfl).2]
      rfl
    · rw [hjoined, hstate']
    · rw [(hr.revoked hstrong _ m' hlater).2]
      rfl
  · intro s
    have hopen : s.queue.isOpen = true := by decide +kernel
    obtain ⟨acts, m, hrun, hexited, hexecuted, -⟩ :=
      hthread {} {} .localProcess Session.threeCommands true hopen
    have hsame : List.Forall₂ Session.SameExecution s.pendingExecutions m.executed := by
      rw [hexecuted]
      exact List.forall₂_same.2 fun e _ => ⟨rfl, rfl, fun _ => rfl⟩
    have hfour : s.pendingExecutions.length = 4 := by decide +kernel
    refine ⟨acts, m, hrun, ?_, hinline s _ _ _ _ acts m hopen hrun hexited hsame⟩
    rw [hexecuted]
    exact hfour

end BatchStringify
