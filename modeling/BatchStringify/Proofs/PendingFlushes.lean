import BatchStringify.Proofs.Ledger.Sound

/-!
# One flush for each pending batch

A batch is evaluated by the flush that its first request sent. A batch without a flush would strand
all later requests of its scope, and a second flush would have nothing to do. In every state that a
session can come to while its queue is open, the scopes with a flush in the queue are exactly those
with a pending batch. So what a submission sends can be told from what it does to the batches.
-/

namespace BatchStringify.Session

variable (s : Session)

/-- The numbers of the scopes whose flush waits in the queue, the next one first. -/
def flushIds : List Nat := (s.queue.waiting.filterMap Task.flushScope?).map (·.id)

/-- Whether a submission of a request adds it to a batch that is already there. -/
def Joins (request : Request) : Prop :=
  ∃ batch, s.pending.find? request.context.scope.id = some batch ∧
    (s.submit request).pending.find? request.context.scope.id = some (batch ++ [request])

@[simp] theorem enqueued_invoke (task : Task) :
    (s.invoke task).queue.enqueued = s.queue.enqueued + 1 := by
  unfold invoke
  dsimp only
  split <;> rfl

@[simp] theorem pending_invoke (task : Task) : (s.invoke task).pending = s.pending := by
  unfold invoke
  dsimp only
  split <;> rfl

/-- A request that joins is the last one of the batch of its scope. -/
theorem pending_join (request : Request) :
    (s.join request).pending = s.pending.put request.context.scope.id
      ((s.pending.find? request.context.scope.id).getD [] ++ [request]) := by
  have hpending := congrArg Ledger.pending (s.ledger_join request)
  rw [Ledger.pending_join] at hpending
  exact hpending

theorem askProbe_keeps (context : Context) :
    (s.askProbe context).2.queue = s.queue ∧ (s.askProbe context).2.pending = s.pending := by
  unfold askProbe
  split <;> exact ⟨rfl, rfl⟩

/-- A submission that leaves the batches alone joined none. -/
theorem not_joins_of_pending_eq {request : Request}
    (h : (s.submit request).pending = s.pending) : ¬s.Joins request := by
  rintro ⟨batch, hb, hb'⟩
  rw [h, hb, Option.some.injEq] at hb'
  exact absurd (congrArg List.length hb') (by simp)

/-- A request that goes to the batches joins one that is there, or it begins one and sends the
flush. -/
theorem enqueued_of_join {s s' : Session} {request : Request}
    (submitted : s.submit request = s'.join request) (queue : s'.queue = s.queue)
    (pending : s'.pending = s.pending) :
    (s.Joins request → (s.submit request).queue.enqueued = s.queue.enqueued) ∧
      (¬s.Joins request → (s.submit request).queue.enqueued = s.queue.enqueued + 1) := by
  unfold join at submitted
  dsimp only at submitted
  rw [pending] at submitted
  rw [← queue]
  cases hf : s.pending.find? request.context.scope.id with
  | none =>
    rw [hf] at submitted
    refine ⟨fun ⟨batch, hb, _⟩ => ?_, fun _ => ?_⟩
    · rw [hf] at hb
      cases hb
    · rw [submitted, enqueued_invoke]
  | some batch =>
    rw [hf] at submitted
    refine ⟨fun _ => ?_, fun hj => absurd ⟨batch, hf, ?_⟩ hj⟩
    · rw [submitted]
    · rw [submitted]
      exact Table.find?_put_self _ _ _

/-- A submission that joins a batch, or that is dropped, sends nothing; any other sends one task. -/
theorem enqueued_submit (request : Request) :
    (s.queue.hasSender = false ∨ s.Joins request →
      (s.submit request).queue.enqueued = s.queue.enqueued) ∧
    (s.queue.hasSender = true → ¬s.Joins request →
      (s.submit request).queue.enqueued = s.queue.enqueued + 1) := by
  cases hs : s.queue.hasSender with
  | false =>
    refine ⟨fun _ => ?_, fun h => Bool.noConfusion h⟩
    rw [submit, hs]
    rfl
  | true =>
    simp only [Bool.true_eq_false, false_or, forall_const]
    have hsub := submit_of_hasSender hs request
    obtain ⟨hq, hp⟩ := (s.record (.accepted request)).askProbe_keeps request.context
    rcases (s.record (.accepted request)).accept_cases request with ⟨s', hs', ha⟩ | ⟨-, -, ha⟩
    · -- no batch has changed, so nothing has joined one
      have hkeeps : s'.queue = s.queue ∧ s'.pending = s.pending := by
        rcases hs' with rfl | rfl
        · exact ⟨rfl, rfl⟩
        · exact ⟨hq, hp⟩
      rw [hsub, ha]
      refine ⟨fun hj => absurd hj (s.not_joins_of_pending_eq ?_), fun _ => ?_⟩
      · rw [hsub, ha, pending_invoke, hkeeps.2]
      · rw [enqueued_invoke, hkeeps.1]
    · exact enqueued_of_join (hsub.trans ha) hq hp

variable (debuggee : Debuggee) (settings : DebuggerSettings) (connection : Connection)

/-- In every state that a session with an open queue can come to, the flushes in the queue are those
of the pending batches, one for each; every batch has requests, all of its scope and all for
objects. A submission then sends one task, or none if it joins a batch or if no sender is left. -/
theorem flushes_eq_pending (events : List Event)
    (isOpen : ((start debuggee settings connection).play events).queue.isOpen = true) :
    let s := (start debuggee settings connection).play events
    s.flushIds.Nodup ∧ s.flushIds = s.pending.keys ∧
    (∀ id batch, (id, batch) ∈ s.pending.entries → batch ≠ [] ∧
      ∀ request ∈ batch, request.context.scope.id = id ∧ request.value.objectId?.isSome) ∧
    ∀ request,
      (s.queue.hasSender = false ∨ s.Joins request →
        (s.submit request).queue.enqueued = s.queue.enqueued) ∧
      (s.queue.hasSender = true → ¬s.Joins request →
        (s.submit request).queue.enqueued = s.queue.enqueued + 1) := by
  intro s
  have hs : s.ledger.Sound := sound_play events (sound_start debuggee settings connection)
  have hf : s.flushIds = s.pending.keys := hs.flushes_eq isOpen
  refine ⟨?_, hf, ?_, s.enqueued_submit⟩
  · rw [hf]
    exact hs.keys_nodup
  · exact fun id batch hb => hs.batches _ hb

/-- Two stops with requests for objects, of which the first was served. -/
def twoStops : List Event :=
  [.step (.suspend 0 (some 1)), .step (.suspend 0 (some 1)),
    .step (.submit ⟨"a", .object 76 2, ⟨0, none, none⟩, ⟨[], [], [], none⟩⟩),
    .step (.submit ⟨"b", .object 76 3, ⟨1, none, none⟩, ⟨[], [], [], none⟩⟩),
    .step (.submit ⟨"c", .object 76 4, ⟨1, none, none⟩, ⟨[], [], [], none⟩⟩), .turn]

theorem flushes_eq_pending_twoStops :
    let s := (start .withHelper {} .localProcess).play twoStops
    s.flushIds = [2] ∧ s.flushIds = s.pending.keys :=
  ⟨by decide +kernel, (flushes_eq_pending _ _ _ twoStops (by decide +kernel)).2.1⟩

end BatchStringify.Session
