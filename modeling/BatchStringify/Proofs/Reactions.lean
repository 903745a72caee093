import BatchStringify.Proofs.Evaluation
import BatchStringify.Proofs.Ledger.Turns
import BatchStringify.Proofs.ScopeCalls
import BatchStringify.Proofs.Sending

/-!
# Reactions

What evaluating and completing requests can do to a session besides: sinks end scopes and send commands,
and everything is written down in the journal. Nothing else changes, neither the batches nor the probe
nor what waits in the queue already (`Reacts`). So a session only reacts when a task that serves requests is
taken from its queue, in whichever way the requests are evaluated and also if a panic ends it (`reacts_turn`).
-/

namespace BatchStringify

/-- The call that a step makes about scopes, if it makes one. -/
def Step.scopeCalls : Step → List ScopeCall
  | .attach => [.attach]
  | .suspend attachment thread => [.suspend attachment thread]
  | .invalidate index => [.invalidate index]
  | .detach attachment => [.detach attachment]
  | _ => []

/-- The calls that a sink makes about scopes. -/
def Sink.scopeCalls (sink : Sink) : List ScopeCall :=
  sink.invalidate.map .invalidate ++ sink.detach.map .detach

/-- The calls about scopes that an entry tells of. -/
def Entry.scopeCalls : Entry → List ScopeCall
  | .report (.performed _ step _) => step.scopeCalls
  | .completed request _ => request.sink.scopeCalls
  | _ => []

/-- Calls and notices that are no panic concern no request and no scope. -/
theorem Entry.IsAside.keeps {kind : Call → Prop} {entry : Entry} (h : entry.IsAside kind) :
    entry.accepted? = none ∧ entry.completed? = none ∧ entry.panic? = none ∧
      entry.scopeCalls = [] := by
  cases entry with
  | exchange call outcome => exact ⟨rfl, rfl, rfl, rfl⟩
  | notice content => exact ⟨rfl, rfl, h, rfl⟩
  | _ => exact h.elim

namespace Session

/-- How a session changes while requests are evaluated and completed. -/
structure Reacts (s s' : Session) : Prop where
  settings : s'.settings = s.settings
  probe : s'.probe = s.probe
  pending : s'.pending = s.pending
  made : s'.made = s.made
  isOpen : s'.queue.isOpen = s.queue.isOpen
  senders : s'.queue.senders = s.queue.senders
  /-- Only commands were sent, if any. -/
  sent : ∃ sent, s'.queue.waiting = s.queue.waiting ++ sent ∧
    ∀ task ∈ sent, task.isCommand = true ∧ s.queue.isOpen = true
  accepted : s'.accepted = s.accepted
  scopes : s'.suspensions.scopes = s.suspensions.scopes
  enqueues : Enqueues s s'
  /-- The journal tells which scopes were ended. -/
  told : ∃ more, s'.link.journal = s.link.journal ++ more ∧
    s'.suspensions = (more.flatMap Entry.scopeCalls).foldl Suspensions.call s.suspensions

instance : Std.Refl Reacts where
  refl s := ⟨rfl, rfl, rfl, rfl, rfl, rfl, ⟨[], by simp⟩, rfl, rfl, Std.Refl.refl s, [], by simp⟩

instance : IsTrans Session Reacts where
  trans := by
    intro s s' s'' h h'
    obtain ⟨sent, hsent, hcommands⟩ := h.sent
    obtain ⟨sent', hsent', hcommands'⟩ := h'.sent
    obtain ⟨more, hmore, hscopes⟩ := h.told
    obtain ⟨more', hmore', hscopes'⟩ := h'.told
    refine ⟨h'.settings.trans h.settings, h'.probe.trans h.probe, h'.pending.trans h.pending,
      h'.made.trans h.made, h'.isOpen.trans h.isOpen, h'.senders.trans h.senders,
      ⟨sent ++ sent', ?_, ?_⟩, h'.accepted.trans h.accepted, h'.scopes.trans h.scopes,
      IsTrans.trans _ _ _ h.enqueues h'.enqueues, more ++ more', ?_, ?_⟩
    · rw [hsent', hsent, List.append_assoc]
    · intro task ht
      rcases List.mem_append.1 ht with ht | ht
      · exact hcommands task ht
      · rw [← h.isOpen]
        exact hcommands' task ht
    · rw [hmore', hmore, List.append_assoc]
    · rw [hscopes', hscopes, List.flatMap_append, List.foldl_append]

variable {s s' : Session}

/-- A scope that is not valid does not become valid. -/
theorem Reacts.isValid (h : Reacts s s') {scope : Scope}
    (hv : s'.suspensions.isValid scope = true) : s.suspensions.isValid scope = true := by
  obtain ⟨more, -, hscopes⟩ := h.told
  rw [hscopes] at hv
  exact Suspensions.isValid_of_foldl hv

/-! ## Pieces of reactions -/

/-- So a session only reacts while its link grows by them. -/
theorem reacts_withLink {kind : Call → Prop} {link : Link} (h : s.link.Grows kind link) :
    Reacts s (s.withLink link) := by
  obtain ⟨more, hm, ha⟩ := h.journal
  have haccepted : more.filterMap Entry.accepted? = [] :=
    List.filterMap_eq_nil_iff.2 fun entry he => (ha entry he).keeps.1
  have hscopes : more.flatMap Entry.scopeCalls = [] :=
    List.flatMap_eq_nil_iff.2 fun entry he => (ha entry he).keeps.2.2.2
  refine ⟨rfl, rfl, rfl, rfl, rfl, rfl, ⟨[], by simp [withLink]⟩, ?_, rfl, enqueues_withLink h,
    more, hm, ?_⟩
  · simp [accepted, withLink, hm, haccepted]
  · rw [hscopes]
    rfl

theorem reacts_note (s : Session) (notice : Logging.Notice) : Reacts s (s.note notice) := by
  refine ⟨rfl, rfl, rfl, rfl, rfl, rfl, ⟨[], by simp [note, withLink]⟩, ?_, rfl,
    enqueues_note s notice, [.notice notice], rfl, rfl⟩
  simp [accepted, note, withLink, Link.note, Link.record, Entry.accepted?]

/-- The journal does not tell of changes of the debuggee, and nothing here depends on them. -/
theorem reacts_debuggee (s : Session) (debuggee : Debuggee) (fault : Option RemoteError)
    (spareProbe : Probe) :
    Reacts s { s with
      link := { s.link with debuggee := debuggee, releaseFault := fault }
      spareProbe := spareProbe } :=
  ⟨rfl, rfl, rfl, rfl, rfl, rfl, ⟨[], by simp⟩, rfl, rfl, .of_eq rfl rfl, [], by simp⟩

/-- Sending a command is a reaction. -/
theorem reacts_offer (s : Session) (command : Command) : Reacts s (s.offer command) := by
  unfold offer invokeCommand invoke
  dsimp only
  by_cases hs : s.queue.hasSender
  · rw [if_pos hs]
    by_cases ho : s.queue.isOpen
    · rw [if_pos ho]
      refine ⟨rfl, rfl, rfl, rfl, rfl, rfl,
        ⟨[.command command (command.scope.bind s.scopeAt?)], ?_, ?_⟩, rfl, rfl,
        ⟨⟨[.command command (command.scope.bind s.scopeAt?)], rfl⟩, rfl⟩, [], by simp⟩
      · simp [CommandQueue.send, ho]
      · simp [Task.isCommand, ho]
    · rw [if_neg ho]
      refine IsTrans.trans _ _ _ ?_ (reacts_note _ _)
      refine ⟨rfl, rfl, rfl, rfl, rfl, rfl, ⟨[], ?_⟩, rfl, rfl,
        ⟨⟨[.command command (command.scope.bind s.scopeAt?)], rfl⟩, rfl⟩, [], by simp⟩
      simp [CommandQueue.send, ho]
  · rw [if_neg hs]
    exact Std.Refl.refl s

theorem invalidateAt_eq (s : Session) (index : Nat) : s.invalidateAt index =
    { s with suspensions := s.suspensions.call (.invalidate index) } := by
  unfold invalidateAt scopeAt?
  rw [Suspensions.call_invalidate]
  cases s.suspensions.scopes[index]? <;> rfl

/-- Several things that only call the scopes do so one after the other. -/
theorem foldl_calls {β : Type} {f : Session → β → Session} {call : β → ScopeCall}
    (calls : ∀ s x, f s x = { s with suspensions := s.suspensions.call (call x) }) (xs : List β)
    (s : Session) :
    xs.foldl f s = { s with suspensions := (xs.map call).foldl Suspensions.call s.suspensions } := by
  induction xs generalizing s with
  | nil => rfl
  | cons x rest ih =>
    rw [List.foldl_cons, ih, calls]
    rfl

/-- A sink ends scopes first and then sends its commands. -/
theorem afterSink_eq (sink : Sink) (s : Session) :
    afterSink sink s = sink.invoke.foldl offer
      { s with suspensions := sink.scopeCalls.foldl Suspensions.call s.suspensions } := by
  have hdetach (s : Session) (attachment : Nat) : s.detach attachment =
      { s with suspensions := s.suspensions.call (.detach attachment) } := rfl
  unfold afterSink Sink.scopeCalls
  dsimp only
  rw [foldl_calls invalidateAt_eq, foldl_calls hdetach, List.foldl_append]

/-- Completing a request leads along a relation if noting the completion together with the ends of scopes does, and
sending commands. -/
theorem along_complete {R : Session → Session → Prop} [IsTrans Session R] {request : Request}
    {completion : Completion}
    (ended : ∀ s : Session, R s { s.record (.completed request completion) with
      suspensions := request.sink.scopeCalls.foldl Suspensions.call s.suspensions })
    (offers : ∀ s command, R s (s.offer command)) : Along R (complete request completion) := by
  intro s
  rw [run_complete, afterSink_eq]
  exact List.foldlRecOn _ _ (ended s) fun s' hs command _ =>
    IsTrans.trans _ _ _ hs (offers s' command)

/-- So is completing a request, with all that its sink does. -/
theorem reacts_complete (request : Request) (completion : Completion) :
    Along Reacts (complete request completion) := by
  refine along_complete (fun s => ?_) reacts_offer
  refine ⟨rfl, rfl, rfl, rfl, rfl, rfl, ⟨[], by simp [record, withLink]⟩, ?_, ?_,
    ⟨⟨[], rfl⟩, (enqueues_record rfl s).starts⟩, [.completed request completion], rfl, ?_⟩
  · simp [accepted, record, withLink, Link.record, Entry.accepted?]
  · have hall : ∀ c ∈ request.sink.scopeCalls, ∀ a t, c ≠ ScopeCall.suspend a t := by
      intro c hc a t
      rcases List.mem_append.1 hc with hc | hc <;> obtain ⟨x, -, rfl⟩ := List.mem_map.1 hc <;>
        exact fun h => by cases h
    exact Suspensions.scopes_foldl hall
  · simp [Entry.scopeCalls]

/-! ## Evaluation -/

/-- A request that is evaluated on its own makes a session only react. -/
theorem reacts_evaluateIndividually (request : Request) :
    Along Reacts (evaluateIndividually request) :=
  along_evaluateIndividually reacts_withLink (reacts_complete request)

/-- So does a batch attempt, also if it panics. -/
theorem reacts_evaluateBatch (helper : Helper) (context : Context) (requests : List Request) :
    Along Reacts (evaluateBatch helper context requests) := fun _ =>
  along_evaluateBatch reacts_withLink (fun request _ => reacts_complete request) context

/-! ## Turns -/

/-- The session after a task that serves requests was taken from the queue, together with the batch
that it evaluates. -/
def released (s : Session) (task : Task) (rest : List Task) : Session :=
  { s.taken rest with
    pending := task.flushScope?.elim s.pending fun scope => s.pending.erase scope.id }

/-- A turn that serves requests takes its task, lets the link grow and completes requests, whether it
runs the task or cancels it, and it may note a panic at the end. -/
theorem along_turn {R : Session → Session → Prop} [Std.Refl R] [IsTrans Session R]
    (displays : ∀ {s link}, s.link.Grows (·.isDisplay) link → R s (s.withLink link))
    (attempts : ∀ {s helper link}, s.probe.helper? = some helper →
      s.link.Grows (·.isAttempt s.settings helper) link → R s (s.withLink link))
    (completes : ∀ r ∈ s.next, ∀ completion, Along R (complete r completion))
    (notes : ∀ s notice, R s (s.note notice)) {task : Task} {rest : List Task}
    (h : s.queue.waiting = task :: rest) (served : task.isCommand = false) :
    R (s.released task rest) (s.after .turn) := by
  have hact : R (s.released task rest) (((s.taken rest).act task).run.run (s.taken rest)).2 := by
    rw [next_of_cons h] at completes
    cases task with
    | flush context =>
      rw [act_of_scope rfl]
      split
      · rw [run, run_flush]
        split
        · exact Std.Refl.refl _
        · exact along_evaluateAll displays attempts completes _ _
      · exact notes _ _
    | individual request =>
      rw [act_of_scope rfl]
      split
      · exact along_evaluateIndividually displays (completes request List.mem_cons_self) _
      · exact Std.Refl.refl _
    | command command scope => cases served
  rw [after_turn_of_cons h]
  unfold execute
  unfold act at hact
  dsimp only
  rcases hr : (if (s.taken rest).isCancelled task then cancel task else run task).run.run
    (s.taken rest) with ⟨payload | _, s'⟩
  · rw [hr] at hact
    exact IsTrans.trans _ _ _ hact (notes _ _)
  · rw [hr] at hact
    exact hact

/-- A turn that serves requests only reacts once its task was taken. -/
theorem reacts_turn {task : Task} {rest : List Task} (h : s.queue.waiting = task :: rest)
    (served : task.isCommand = false) : Reacts (s.released task rest) (s.after .turn) :=
  along_turn reacts_withLink (fun _ => reacts_withLink) (fun r _ => reacts_complete r) reacts_note h
    served

end Session

end BatchStringify
