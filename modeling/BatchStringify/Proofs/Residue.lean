import BatchStringify.Proofs.Conservation
import BatchStringify.Proofs.PendingFlushes
import BatchStringify.Proofs.Probing

/-!
# What a refused submission leaves behind

There are two ways in which a session refuses to work for a submission. If no sender is left, the request is dropped
at the door, and nothing but a notice comes of it. If the receiving end of the queue is gone while a sender is left,
the request still comes in, and only the task that it sends is dropped. A request with a task of its own is then gone.
But one that goes to the batch of its scope has joined the batch before the flush is sent, and it stays there
(`refused_residue`): a flush that is dropped is neither run nor cancelled, so nothing ever takes the batch.
-/

namespace BatchStringify

/-! ## Batches that grow -/

namespace Ledger

/-- Whether batches have only grown, at their ends. -/
def Grown (l l' : Ledger) : Prop :=
  ∀ id batch, l.pending.find? id = some batch →
    ∃ more, l'.pending.find? id = some (batch ++ more)

variable {l l' l'' : Ledger}

theorem Grown.of_eq (h : l'.pending = l.pending) : l.Grown l' := by
  intro id batch hbatch
  refine ⟨[], ?_⟩
  rw [h, hbatch, List.append_nil]

/-- Batches that have grown can grow on. -/
theorem Grown.trans (h : l.Grown l') (h' : l'.Grown l'') : l.Grown l'' := by
  intro id batch hbatch
  obtain ⟨more, hmore⟩ := h id batch hbatch
  obtain ⟨more', hmore'⟩ := h' id _ hmore
  exact ⟨more ++ more', by rw [hmore', List.append_assoc]⟩

/-- Joining a batch makes it grow. -/
theorem grown_join (l : Ledger) (request : Request) : l.Grown (l.join request) := by
  intro id batch hbatch
  rw [pending_join]
  by_cases hid : id = request.context.scope.id
  · subst hid
    exact ⟨[request], by rw [Table.find?_put_self, hbatch]; rfl⟩
  · exact ⟨[], by rw [Table.find?_put_of_ne _ _ hid, hbatch, List.append_nil]⟩

/-- As long as no task is taken from the queue, batches only grow. -/
theorem Step.grown (step : Ledger.Step l l') : l.Grown l' := by
  cases step with
  | join request serial_eq scope_mem isObject => exact grown_join ((l.make 1).accept request) request
  | _ => exact .of_eq rfl

end Ledger

namespace Session

variable {s : Session} {request : Request}

/-- No step makes a batch smaller. -/
theorem grown_perform (s : Session) (step : Step) :
    s.ledger.Grown (s.after (.step step)).ledger :=
  Ledger.steps_preserve (fun _ _ hstep h => h.trans hstep.grown) (leads_perform step s) (.of_eq rfl)

/-- Without a receiving end there are no turns, so batches only grow. -/
theorem grown_after (event : Event) (waiting : s.queue.waiting = []) :
    s.ledger.Grown (s.after event).ledger := by
  cases event with
  | step step => exact grown_perform s step
  | turn =>
    rw [after_turn_of_nil waiting]
    exact .of_eq rfl
  | dropSender => exact .of_eq (congrArg Ledger.pending s.ledger_dropOwnSender)
  | dropQueue => exact .of_eq rfl

/-- Nor does a run without a queue to take the flushes. -/
theorem grown_play (closed : s.queue.isOpen = false) (waiting : s.queue.waiting = [])
    (events : List Event) : s.ledger.Grown (s.play events).ledger := by
  induction events generalizing s with
  | nil => exact .of_eq rfl
  | cons event rest ih =>
    -- what one event leaves is still closed, and still nothing waits there
    have hafter := conserves_after event fun _ => waiting
    have hclosed := hafter.closed closed
    exact (grown_after event waiting).trans (ih hclosed (hafter.empty hclosed))

/-! ## Submissions -/

/-- Whether a request that is submitted goes to the batch of its scope: there is a sender, it refers to an object, and
the probe answers that batches can be evaluated. -/
def GoesToBatch (s : Session) (request : Request) : Prop :=
  s.queue.hasSender = true ∧ request.value.objectId?.isSome = true ∧
    (s.askProbe request.context).1 = true

/-- A request that goes to the batch of its scope is its last one then, wherever the flush goes. -/
theorem pending_submit_of_goesToBatch (h : s.GoesToBatch request) :
    (s.submit request).pending = s.pending.put request.context.scope.id
      ((s.pending.find? request.context.scope.id).getD [] ++ [request]) := by
  obtain ⟨hasSender, isObject, available⟩ := h
  obtain ⟨-, hpending⟩ := (s.record (.accepted request)).askProbe_keeps request.context
  rw [submit_of_hasSender hasSender, accept_of_object isObject, askProbe_record, if_pos available,
    pending_join, hpending]
  rfl

/-- A submission that goes to no batch leaves all batches as they are. -/
theorem pending_submit_of_not_goesToBatch (h : ¬s.GoesToBatch request) :
    (s.submit request).pending = s.pending := by
  by_cases hasSender : s.queue.hasSender = true
  · obtain ⟨-, hpending⟩ := (s.record (.accepted request)).askProbe_keeps request.context
    rw [submit_of_hasSender hasSender]
    rcases (s.record (.accepted request)).accept_cases request with
      ⟨s', rfl | rfl, haccept⟩ | ⟨isObject, available, -⟩
    · rw [haccept, pending_invoke]
      rfl
    · rw [haccept, pending_invoke, hpending]
      rfl
    · rw [askProbe_record] at available
      exact absurd ⟨hasSender, isObject, available⟩ h
  · rw [submit, if_neg hasSender]
    rfl

/-- No sink is used by a submission. -/
theorem completions_submit (s : Session) (request : Request) :
    (s.submit request).completions = s.completions := by
  have hcompleted : (s.submit request).ledger.completed = s.ledger.completed := by
    rcases s.ledger_submit request with ⟨-, h⟩ | ⟨-, h | ⟨-, h⟩⟩ <;> rw [h]
    · rfl
    · exact Ledger.completed_join _ _
  exact hcompleted

/-- A submission that is refused sends nothing that waits. -/
theorem waiting_submit_of_refused
    (refused : s.queue.isOpen = false ∨ s.queue.hasSender = false) (request : Request) :
    (s.submit request).queue.waiting = s.queue.waiting := by
  rcases refused with closed | abandoned
  · obtain ⟨sent, hsent⟩ := (s.enqueues_submit request).queue
    rw [hsent, CommandQueue.foldl_send, closed]
    rfl
  · rw [submit, abandoned]
    rfl

/-- What a request leaves behind that goes to the batch of its scope: the batch is longer by one request, and the others
are as before. -/
theorem GoesToBatch.residue (h : s.GoesToBatch request) :
    (s.submit request).hasPending = true ∧
    (s.submit request).pendingLength request.context.scope.id =
      s.pendingLength request.context.scope.id + 1 ∧
    ∀ scope, scope ≠ request.context.scope.id →
      (s.submit request).pendingLength scope = s.pendingLength scope := by
  have hput := pending_submit_of_goesToBatch h
  have hfind : (s.submit request).pending.find? request.context.scope.id =
      some ((s.pending.find? request.context.scope.id).getD [] ++ [request]) := by
    rw [hput, Table.find?_put_self]
  refine ⟨?_, ?_, fun scope hscope => ?_⟩
  · have hmem : request.context.scope.id ∈ (s.submit request).pending.keys :=
      ((s.submit request).pending.find?_isSome_iff _).1 (by rw [hfind]; rfl)
    rw [hasPending, Bool.not_eq_true', List.isEmpty_eq_false_iff]
    exact List.ne_nil_of_mem hmem
  · rw [pendingLength, hfind, Option.getD_some, List.length_append, List.length_singleton]
    rfl
  · rw [pendingLength, hput, Table.find?_put_of_ne _ _ hscope, pendingLength]

/-- Once the receiving end is gone, a request that went to the batch of its scope stays there, whatever happens. -/
theorem GoesToBatch.stranded (h : s.GoesToBatch request) (closed : s.queue.isOpen = false)
    (waiting : s.queue.waiting = []) (future : List Event) :
    ∃ more, ((s.submit request).play future).pending.find? request.context.scope.id =
      some ((s.pending.find? request.context.scope.id).getD [] ++ [request] ++ more) := by
  have hclosed : (s.submit request).queue.isOpen = false :=
    (s.enqueues_submit request).extends.isOpen.trans closed
  have hwaiting : (s.submit request).queue.waiting = [] :=
    (waiting_submit_of_refused (.inl closed) request).trans waiting
  refine grown_play hclosed hwaiting future request.context.scope.id _ ?_
  show (s.submit request).pending.find? request.context.scope.id = _
  rw [pending_submit_of_goesToBatch h, Table.find?_put_self]

variable (debuggee : Debuggee) (settings : DebuggerSettings) (connection : Connection)

/-- A submission to a session whose receiving end is gone, or that has no sender, uses no sink and sends nothing that
could ever be executed. Without a sender nothing but a notice comes of it. The batches stay as they are unless the
request goes to the batch of its scope, which takes a sender. Then it is the last request of that batch, no
other batch is changed, and it stays in the batch whatever happens later. -/
theorem refused_residue (events : List Event) (request : Request)
    (refused : ((start debuggee settings connection).play events).queue.isOpen = false ∨
      ((start debuggee settings connection).play events).queue.hasSender = false) :
    let s := (start debuggee settings connection).play events
    let s' := s.submit request
    let id := request.context.scope.id
    s'.completions = s.completions ∧ s'.queue.waiting = s.queue.waiting ∧
    (s.queue.hasSender = false → s' = s.note .submissionDropped ∧ ¬s.GoesToBatch request) ∧
    (¬s.GoesToBatch request → s'.pending = s.pending) ∧
    (s.GoesToBatch request →
      (s'.hasPending = true ∧ s'.pendingLength id = s.pendingLength id + 1 ∧
        ∀ scope, scope ≠ id → s'.pendingLength scope = s.pendingLength scope) ∧
      ∀ future, ∃ more, (s'.play future).pending.find? id =
        some ((s.pending.find? id).getD [] ++ [request] ++ more)) := by
  intro s s' id
  refine ⟨completions_submit s request, waiting_submit_of_refused refused request,
    fun abandoned => ⟨?_, fun h => ?_⟩, pending_submit_of_not_goesToBatch, fun h => ⟨h.residue, ?_⟩⟩
  · show s.submit request = _
    rw [submit, abandoned]
    rfl
  · rw [h.1] at abandoned
    cases abandoned
  · -- there is a sender, so it is the receiving end that is gone, and with it all that waited
    have closed : s.queue.isOpen = false := by
      rcases refused with closed | abandoned
      · exact closed
      · exact absurd h.1 (by rw [abandoned]; exact Bool.false_ne_true)
    have hplay : Conserves (start debuggee settings connection) s _ _ :=
      conserves_play events fun _ => rfl
    exact h.stranded closed (hplay.empty closed)

/-- A stop, after which the receiving end is dropped. -/
def stoppedThenClosed : List Event := [.step (.suspend 0 (some 1)), .dropQueue]

/-- An object that was seen at that stop. -/
def lateObject : Request :=
  ⟨0, "a", .object 76 2, ⟨⟨1, some 1, 0⟩, none, .localProcess⟩, ⟨[], [], [], none⟩⟩

/-- Its batch is there as long as the session is. -/
theorem refused_residue_lateObject :
    let s := (start .withHelper {} .localProcess).play stoppedThenClosed
    (s.submit lateObject).pendingLength 1 = 1 ∧ (s.submit lateObject).hasPending = true ∧
    ∀ future, ∃ more, ((s.submit lateObject).play future).pending.find? 1 =
      some ([lateObject] ++ more) := by
  intro s
  obtain ⟨-, -, -, -, hstranded⟩ := refused_residue .withHelper {} .localProcess stoppedThenClosed
    lateObject (.inl (by decide +kernel))
  have hbatch : s.GoesToBatch lateObject := ⟨by decide +kernel, rfl, by decide +kernel⟩
  obtain ⟨⟨hpending, hlength, -⟩, hfuture⟩ := hstranded hbatch
  exact ⟨hlength, hpending, hfuture⟩

/-- So a submission that is refused can change the batches. -/
theorem not_untouched_lateObject :
    ¬∀ (events : List Event) (request : Request),
      let s := (start .withHelper {} .localProcess).play events
      s.queue.isOpen = false ∨ s.queue.hasSender = false →
        (s.submit request).completions = s.completions ∧
        (s.submit request).pending = s.pending := by
  intro hall
  obtain ⟨-, hpending⟩ := hall stoppedThenClosed lateObject (.inl (by decide +kernel))
  have hkeys := congrArg Table.keys hpending
  exact absurd hkeys (by decide +kernel)

end Session

end BatchStringify
