import BatchStringify.Proofs.Exhaustion
import BatchStringify.Proofs.Helper
import BatchStringify.Proofs.Ledger.Continuation
import BatchStringify.Proofs.Moves
import BatchStringify.Proofs.Probing

/-!
# Panics are contained

A panic ends the task at hand and nothing else. In a flush it can come from the batch helper, before any
request was completed, or from the sink of a request, and then the requests in front of that one were
completed in their order, whichever way they were evaluated (`evaluateAll_panics`). The batch was taken at the
beginning of the flush, so nothing of it is left to be completed later, and the next object of the scope
begins a batch of its own.
-/

namespace BatchStringify.Session

/-! ## Where a panic comes from -/

/-- Whether work on requests was cut off by the panic of a sink: the requests up to the one with this sink
were completed, in their order. -/
def CutOff (requests : List Request) (payload : Panic) (done : List (Request × Completion)) : Prop :=
  ∃ before request after, requests = before ++ request :: after ∧
    (∀ r ∈ before, r.sink.panic = none) ∧ request.sink.panic = some payload ∧
    done.map (·.1) = before ++ [request]

/-- Whether the batch helper panicked over the values of requests: none of them was completed, and
`toString` was not run. -/
structure HelperPanicked (requests : List Request) (payload : Panic) (s s' : Session) : Prop where
  known : s.probe.helper?.isSome = true
  reply : s.link.debuggee.reply? (requests.map (·.value)) = some (.panic payload)
  completions : s'.completions = s.completions
  exchanges : ∃ more, s'.exchanges = s.exchanges ++ more ∧ ∀ p ∈ more, p.1.isDisplay = false

variable {s s' : Session} {payload : Panic} {requests : List Request}

/-- Completing a request adds it to what is completed, whether or not its sink panics. -/
theorem completions_complete (request : Request) (completion : Completion) (s : Session) :
    ((complete request completion).run.run s).2.completions =
      s.completions ++ [(request, completion)] :=
  congrArg Ledger.completed (ledger_complete request completion s)

/-- Work on the elements of a list that completes one request for each ends with the panic of the first sink
that panics. -/
theorem cutOff_forM {γ : Type} {f : γ → Action PUnit} {owner : γ → Request}
    (h : ∀ x s, ∃ t completion, (f x).run.run s = (complete (owner x) completion).run.run t ∧
      t.completions = s.completions) {xs : List γ}
    (hr : (xs.forM f).run.run s = (.error payload, s')) :
    ∃ done, s'.completions = s.completions ++ done ∧ CutOff (xs.map owner) payload done := by
  induction xs generalizing s with
  | nil => cases hr
  | cons x rest ih =>
    have hx : ((x :: rest).forM f).run.run s = _ := run_bind (f x) (fun _ => rest.forM f) s
    obtain ⟨t, completion, hf, ht⟩ := h x s
    have hc := completions_complete (owner x) completion t
    rw [ht] at hc
    rw [hx, hf] at hr
    rcases hp : (owner x).sink.panic with _ | payload' <;> rw [run_complete, hp] at hr hc <;>
      dsimp only at hr hc
    · obtain ⟨done, hdone, before, request, after, hsplit, hquiet, hpanic, hmap⟩ := ih hr
      refine ⟨(owner x, completion) :: done, ?_, owner x :: before, request, after, ?_, ?_, hpanic, ?_⟩
      · rw [hdone, hc, List.append_assoc, List.singleton_append]
      · rw [List.map_cons, hsplit, List.cons_append]
      · rintro r (_ | ⟨_, hr⟩)
        · exact hp
        · exact hquiet r hr
      · rw [List.map_cons, hmap, List.cons_append]
    · obtain ⟨hpayload, rfl⟩ := Prod.mk.inj hr
      obtain rfl := Except.error.inj hpayload
      refine ⟨[(owner x, completion)], hc, [], owner x, rest.map owner, rfl, ?_, hp, rfl⟩
      exact fun r hr => (List.not_mem_nil hr).elim

theorem completions_withLink {kind : Call → Prop} {link : Link} (h : s.link.Grows kind link) :
    (s.withLink link).completions = s.completions := congrArg Ledger.completed (s.ledger_withLink h)

theorem completions_note {notice : Logging.Notice} (h : (Entry.notice notice).panic? = none) :
    (s.note notice).completions = s.completions := congrArg Ledger.completed (s.ledger_note h)

/-- Evaluating a request on its own ends with its completion. -/
theorem exists_evaluateIndividually (request : Request) (s : Session) :
    ∃ t completion, (evaluateIndividually request).run.run s =
      (complete request completion).run.run t ∧ t.completions = s.completions :=
  ⟨_, _, run_evaluateIndividually request s, completions_withLink (individualText_grows _ _ _)⟩

/-- A panic cuts off what is evaluated one by one behind the request of the sink. -/
theorem cutOff_individually
    (h : (requests.forM evaluateIndividually).run.run s = (.error payload, s')) :
    ∃ done, s'.completions = s.completions ++ done ∧ CutOff requests payload done := by
  have hcut := cutOff_forM exists_evaluateIndividually h
  rwa [List.map_id'] at hcut

/-- It cuts off a delivery in the same way. -/
theorem cutOff_deliver {entries : List Reply.Entry} (hlen : entries.length = requests.length)
    (h : (deliver requests entries).run.run s = (.error payload, s')) :
    ∃ done, s'.completions = s.completions ++ done ∧ CutOff requests payload done := by
  have hone : ∀ (p : Request × Reply.Entry) (s : Session), ∃ t completion,
      (complete p.1 (.ofEntry p.2)).run.run s = (complete p.1 completion).run.run t ∧
        t.completions = s.completions := fun p s => ⟨s, _, rfl, rfl⟩
  have hcut := cutOff_forM hone h
  rwa [List.map_fst_zip (Nat.le_of_eq hlen.symm)] at hcut

/-- Requests that are evaluated together are cut off by a panic of the helper over all of them or by a panic
of the sink of one of them, whichever way they are evaluated. -/
theorem evaluateAll_panics {context : Context}
    (h : (evaluateAll context requests).run.run s = (.error payload, s')) :
    HelperPanicked requests payload s s' ∨
      ∃ done, s'.completions = s.completions ++ done ∧ CutOff requests payload done := by
  rw [run_evaluateAll, run_evaluateTogether] at h
  cases hp : s.probe.helper? with
  | none =>
    rw [hp] at h
    exact .inr (cutOff_individually h)
  | some helper =>
    rw [hp] at h
    dsimp only at h
    have hg := Attempt.evaluate_grows s.settings helper context (requests.map (·.value)) s.link
    rcases hr : (Attempt.evaluate s.settings helper context (requests.map (·.value))).run.run.run
      s.link with ⟨payload' | fault | entries, l⟩ <;> rw [hr] at hg <;>
      rw [run_evaluateBatch, run_attemptBatch hr] at h <;> dsimp only at h hg
    · obtain ⟨hpayload, rfl⟩ := Prod.mk.inj h
      obtain rfl := Except.error.inj hpayload
      obtain ⟨more, hmore, hkind⟩ := exchanges_withLink hg
      refine .inl ⟨by rw [hp]; rfl, Attempt.reply?_of_panic hr, completions_withLink hg, more, hmore, ?_⟩
      exact fun p hmem => Call.isDisplay_of_isAttempt (hkind p hmem)
    · have hc : ((s.withLink l).note
          (.batchFailed context.scope.id requests.length fault)).completions = s.completions :=
        (completions_note rfl).trans (completions_withLink hg)
      rw [← hc]
      exact .inr (cutOff_individually h)
    · have hlen := (Attempt.evaluate_eq_entries_iff.1 hr).length_eq
      rw [List.length_map] at hlen
      rcases hd : (deliver requests entries).run.run (s.withLink l) with ⟨payload' | _, s''⟩ <;>
        rw [hd] at h
      · obtain ⟨hpayload, rfl⟩ := Prod.mk.inj h
        obtain rfl := Except.error.inj hpayload
        rw [← completions_withLink hg]
        exact .inr (cutOff_deliver hlen hd)
      · cases (Prod.mk.inj h).1

/-! ## Turns that panic -/

/-- The panic that the next turn ends with, if it ends with one. -/
def nextPanic? (s : Session) : Option Panic :=
  match s.queue.waiting with
  | [] => none
  | task :: rest =>
    match (((s.taken rest).act task).run.run (s.taken rest)).1 with
    | .ok _ => none
    | .error payload => some payload

variable {task : Task} {rest : List Task}

/-- What a task did before it panicked stays done, and the panic is noted. -/
theorem after_turn_of_panic (h : s.queue.waiting = task :: rest) (hp : s.nextPanic? = some payload) :
    ∃ s₁ cancelled, ((s.taken rest).act task).run.run (s.taken rest) = (.error payload, s₁) ∧
      s.after .turn = s₁.note (.commandPanicked cancelled payload) := by
  rw [after_turn_of_cons h]
  simp only [nextPanic?, h] at hp
  unfold execute
  unfold act at hp ⊢
  dsimp only
  rcases hr : (if (s.taken rest).isCancelled task then cancel task else run task).run.run
    (s.taken rest) with ⟨payload' | _, s₁⟩ <;> rw [hr] at hp
  · obtain rfl := Option.some.inj hp
    exact ⟨s₁, _, rfl, rfl⟩
  · cases hp

/-- A task that serves requests panics in one of two ways, and only a flush in the first one. -/
theorem turn_panics {scope : Scope} (h : s.queue.waiting = task :: rest)
    (serves : task.servedScope? = some scope) (hp : s.nextPanic? = some payload) :
    task.flushScope?.isSome = true ∧ HelperPanicked s.next payload s (s.after .turn) ∨
      ∃ done, (s.after .turn).completions = s.completions ++ done ∧ CutOff s.next payload done := by
  obtain ⟨s₁, cancelled, hr, hafter⟩ := after_turn_of_panic h hp
  have hc : (s.after .turn).completions = s₁.completions := by
    rw [hafter]
    exact congrArg Ledger.completed (s₁.ledger_note_panic cancelled payload)
  have hx : (s.after .turn).exchanges = s₁.exchanges := by
    rw [hafter]
    exact exchanges_note s₁ _
  rw [next_of_cons h, hc]
  -- a flush panics in its helper or in a sink, a request evaluated alone only in its sink
  cases task with
  | flush context =>
    rw [act_of_scope rfl] at hr
    split at hr
    · rw [run, run_flush] at hr
      split at hr
      · cases (Prod.mk.inj hr).1
      · rcases evaluateAll_panics hr with ⟨known, reply, completions, exchanges⟩ | hcut
        · refine .inl ⟨rfl, known, reply, hc.trans completions, ?_⟩
          rw [hx]
          exact exchanges
        · exact .inr hcut
    · cases (Prod.mk.inj hr).1
  | individual request =>
    rw [act_of_scope rfl] at hr
    split at hr
    · have hone : ([request].forM evaluateIndividually).run.run (s.taken rest) =
          (.error payload, s₁) := by
        have hx : ([request].forM evaluateIndividually).run.run (s.taken rest) = _ :=
          run_bind (evaluateIndividually request) (fun _ => [].forM evaluateIndividually) _
        rw [hx, show (evaluateIndividually request).run.run (s.taken rest) = _ from hr]
      obtain ⟨done, hdone, hcut⟩ := cutOff_individually hone
      exact .inr ⟨done, hdone, hcut⟩
    · cases (Prod.mk.inj hr).1
  | command command place => cases serves

/-! ## Afterwards -/

/-- The completions of given requests so far. -/
def completionsAmong (s : Session) (requests : List Request) : List (Request × Completion) :=
  s.completions.filter fun p => decide (p.1.serial ∈ requests.map (·.serial))

/-- Requests that are next wait. -/
theorem mem_waiting_of_next {r : Request} (hr : r ∈ s.next) : r ∈ s.ledger.waiting := by
  rw [Ledger.mem_waiting]
  cases hw : s.queue.waiting with
  | nil => simp [next, hw] at hr
  | cons task rest =>
    rw [next_of_cons hw] at hr
    cases task with
    | flush context =>
      cases hf : s.pending.find? context.scope.id with
      | none => simp [carried, hf] at hr
      | some batch =>
        rw [carried, hf] at hr
        exact .inl ⟨_, Table.mem_entries_of_find? hf, hr⟩
    | individual request =>
      refine .inr (List.mem_filterMap.2 ⟨.individual request, ?_, ?_⟩)
      · rw [hw]
        exact List.mem_cons_self
      · rw [List.mem_singleton.1 hr]
        rfl
    | command command place => cases hr

/-- Whatever comes, the requests of a turn are completed in that turn or not at all. -/
theorem completionsAmong_play {books : List (Request × Bool)} (hs : s.ledger.Sound)
    (hb : s.ledger.Accounts books) {done : List (Request × Completion)}
    (hdone : (s.after .turn).completions = s.completions ++ done)
    (own : ∀ p ∈ done, p.1 ∈ s.next) (future : List Event) :
    ((s.after .turn).play future).completionsAmong s.next = done := by
  have hb' := accounts_turn hb hs
  obtain ⟨-, ⟨more, hmore, hfrom⟩, -, -⟩ := continues_play future (sound_after .turn hs)
  have hpast : ∀ r ∈ s.next, (r, s.suspensions.isValid r.context.scope) ∈
      books ++ s.next.map fun r => (r, s.suspensions.isValid r.context.scope) :=
    fun r hr => List.mem_append_right _ (List.mem_map_of_mem hr)
  have hold : ∀ p ∈ s.completions, ¬decide (p.1.serial ∈ s.next.map (·.serial)) = true := by
    intro p hp
    rw [decide_eq_true_eq, List.mem_map]
    rintro ⟨r, hr, hserial⟩
    exact hb.not_early p hp r (mem_waiting_of_next hr) hserial.symm
  have hnew : ∀ p ∈ more, ¬decide (p.1.serial ∈ s.next.map (·.serial)) = true := by
    intro p hp
    rw [decide_eq_true_eq, List.mem_map]
    rintro ⟨r, hr, hserial⟩
    rcases hfrom p hp with hmade | hwaits
    · have hlt : r.serial < (s.after .turn).ledger.made := hb'.past_lt (hpast r hr)
      omega
    · exact hb'.past_ne_waiting (hpast r hr) hwaits hserial.symm
  have hall : ∀ p ∈ done, decide (p.1.serial ∈ s.next.map (·.serial)) = true :=
    fun p hp => decide_eq_true (List.mem_map_of_mem (own p hp))
  have hcompletions : ((s.after .turn).play future).completions =
      s.completions ++ done ++ more := by
    rw [← hdone]
    exact hmore
  rw [completionsAmong, hcompletions, List.filter_append, List.filter_append,
    List.filter_eq_nil_iff.2 hold, List.filter_eq_self.2 hall, List.filter_eq_nil_iff.2 hnew,
    List.nil_append, List.append_nil]

/-- A scope without a batch has none as long as no object of it is accepted. -/
theorem find?_pending_play {books : List (Request × Bool)} (hs : s.ledger.Sound)
    (hb : s.ledger.Accounts books) {id : Nat} (hnone : s.pending.find? id = none)
    {future : List Event} (quiet : ∀ r ∈ (s.play future).accepted, s.made ≤ r.serial →
      r.context.scope.id = id → r.value.objectId? = none) :
    (s.play future).pending.find? id = none := by
  cases hf : (s.play future).pending.find? id with
  | none => rfl
  | some batch =>
    obtain ⟨hne, hall⟩ := (sound_play future hs).batch hf
    obtain ⟨r, hr⟩ := List.exists_mem_of_ne_nil batch hne
    obtain ⟨hid, hobject⟩ := hall r hr
    have haccepted : r ∈ (s.play future).accepted := by
      refine (accounts_play future hb hs).owed.subset (List.mem_append_right _ ?_)
      exact Ledger.mem_waiting.2 (.inl ⟨_, Table.mem_entries_of_find? hf, hr⟩)
    have hmade : s.made ≤ r.serial := by
      rcases (continues_play future hs).batches id r (by
        rw [show (s.play future).ledger.pending.find? id = some batch from hf]
        exact hr) with hmade | hold
      · exact hmade
      · rw [show s.ledger.pending.find? id = none from hnone] at hold
        cases hold
    rw [quiet r haccepted hmade hid] at hobject
    cases hobject

/-- An object that is submitted while batches can be evaluated and its scope has none begins one, and sends
its flush. -/
theorem submit_begins {request : Request} (isObject : request.value.objectId?.isSome = true)
    (hasSender : s.queue.hasSender = true) (isOpen : s.queue.isOpen = true)
    (available : (s.askProbe request.context).1 = true)
    (hnone : s.pending.find? request.context.scope.id = none) :
    (s.submit request).pending.find? request.context.scope.id = some [request] ∧
      (s.submit request).queue.waiting = s.queue.waiting ++ [.flush request.context] := by
  obtain ⟨probe, link, hask, -⟩ :=
    (s.record (.accepted request)).exists_askProbe request.context
  rw [submit_of_hasSender hasSender, accept_of_object isObject, askProbe_record, if_pos available,
    hask]
  unfold join
  dsimp only
  rw [show (s.record (.accepted request)).pending.find? request.context.scope.id = none from hnone]
  dsimp only
  rw [invoke_of_open]
  · refine ⟨Table.find?_put_self _ _ _, ?_⟩
    simp [CommandQueue.send, record, withLink, isOpen]
  · exact isOpen

/-! ## Containment -/

/-- What a task that served requests and ended with a panic leaves behind: the batch of its scope is gone if
it was a flush, and everything else is as it was, but for the commands that sinks sent. -/
structure Contained (task : Task) (rest : List Task) (payload : Panic) (s s' : Session) : Prop where
  probe : s'.probe = s.probe
  pending : s'.pending = task.flushScope?.elim s.pending fun scope => s.pending.erase scope.id
  queued : ∃ sent, s'.queue.waiting = rest ++ sent ∧ ∀ t ∈ sent, t.isCommand = true
  /-- Of its requests only those in front of the panic are ever completed. -/
  completed : ∃ done, (∀ future, (s'.play future).completionsAmong s.next = done) ∧
    (task.flushScope?.isSome = true ∧ HelperPanicked s.next payload s s' ∧ done = [] ∨
      CutOff s.next payload done)

variable (debuggee : Debuggee) (settings : DebuggerSettings) (connection : Connection)

/-- In every state that a session can come to, if the next task panics, then the run of the queue counts it and
goes on with the tasks behind it. A task that serves requests is contained, and after a flush the next object
of the scope that is submitted while batches can be evaluated begins a new batch with a new flush. -/
theorem panic_contained (past : List Event) :
    let s := (start debuggee settings connection).play past
    ∀ task rest payload, s.queue.waiting = task :: rest → s.nextPanic? = some payload →
      let s' := s.after .turn
      s.runPending = (s'.runPending.1 + 1, s'.runPending.2) ∧ rest <+: s'.queue.waiting ∧
      (∀ scope, task.servedScope? = some scope → Contained task rest payload s s') ∧
      ∀ context, task = .flush context → ∀ future request,
        let u := s'.play future
        (∀ r ∈ u.accepted, s'.made ≤ r.serial → r.context.scope.id = context.scope.id →
          r.value.objectId? = none) →
        request.context.scope.id = context.scope.id → request.value.objectId?.isSome = true →
        u.queue.hasSender = true → u.queue.isOpen = true →
        (u.askProbe request.context).1 = true →
          u.pending.find? context.scope.id = none ∧
          (u.submit request).pending.find? context.scope.id = some [request] ∧
          (u.submit request).queue.waiting = u.queue.waiting ++ [.flush request.context] := by
  intro s task rest payload hw hp s'
  have hs : s.ledger.Sound := sound_play past (sound_start debuggee settings connection)
  have hb := accounts_play past (accounts_start debuggee settings connection)
    (sound_start debuggee settings connection)
  have hdequeue : s.dequeue = some s' := by
    show _ = some (s.after .turn)
    rw [after_turn_of_cons hw]
    simp [dequeue, CommandQueue.receive?, hw, taken]
  refine ⟨runPending_of_dequeue hdequeue, (extends_turn hw).waiting, ?_, ?_⟩
  · intro scope serves
    have hreacts := reacts_turn hw (Task.isCommand_eq_false_iff.2 ⟨scope, serves⟩)
    obtain ⟨sent, hsent, hcommands⟩ := hreacts.sent
    refine ⟨hreacts.probe, hreacts.pending, ⟨sent, hsent, fun t ht => (hcommands t ht).1⟩, ?_⟩
    -- the helper panicked before any completion, or a sink cut the completions off
    rcases turn_panics hw serves hp with ⟨hflush, hhelper⟩ | ⟨done, hdone, hcut⟩
    · have hdone : s'.completions = s.completions ++ [] := by
        rw [List.append_nil]
        exact hhelper.completions
      exact ⟨[], completionsAmong_play hs hb hdone (fun p hp => (List.not_mem_nil hp).elim),
        .inl ⟨hflush, hhelper, rfl⟩⟩
    · refine ⟨done, completionsAmong_play hs hb hdone fun p hp => ?_, .inr hcut⟩
      obtain ⟨before, request, after, hsplit, -, -, hmap⟩ := hcut
      have hmem : p.1 ∈ before ++ [request] := hmap ▸ List.mem_map_of_mem hp
      rw [hsplit]
      simp only [List.mem_append, List.mem_cons, List.not_mem_nil, or_false] at hmem ⊢
      exact hmem.imp_right .inl
  · rintro context rfl future request u quiet hscope isObject hasSender isOpen available
    -- the flush took its batch before it panicked, so the next object finds none
    have hpending : s'.pending = s.pending.erase context.scope.id := (reacts_turn hw rfl).pending
    have hgone : s'.pending.find? context.scope.id = none := by
      rw [hpending]
      exact Table.find?_erase_self _ _
    have hnone := find?_pending_play (sound_after .turn hs) (accounts_turn hb hs) hgone quiet
    refine ⟨hnone, ?_⟩
    rw [← hscope] at hnone ⊢
    exact submit_begins isObject hasSender isOpen available hnone

/-- Three objects, of which the second has a sink that panics, and a value behind them. -/
def panickingSink : List Event :=
  [.step (.suspend 0 (some 1)),
    .step (.submit ⟨"a", .object 76 2, ⟨0, none, none⟩, ⟨[], [], [], none⟩⟩),
    .step (.submit ⟨"b", .object 76 3, ⟨0, none, none⟩, ⟨[], [], [], some (.text "sink")⟩⟩),
    .step (.submit ⟨"c", .object 76 4, ⟨0, none, none⟩, ⟨[], [], [], none⟩⟩),
    .step (.submit ⟨"d", .null, ⟨0, none, none⟩, ⟨[], [], [], none⟩⟩)]

/-- A request for one more object of the same stop. -/
def nextObject : Request :=
  ⟨4, "e", .object 76 5, ⟨⟨1, some 1, 0⟩, none, .localProcess⟩, ⟨[], [], [], none⟩⟩

/-- The third object is lost, the value behind the flush is not, and the next object begins a batch. -/
theorem panic_contained_panickingSink :
    let s := (start .withHelper {} .localProcess).play panickingSink
    let s' := s.after .turn
    s.runPending = (s'.runPending.1 + 1, s'.runPending.2) ∧
    s.runPending.2.completions.map (·.1.label) = ["a", "b", "d"] ∧
    (∃ done, done.map (·.1.label) = ["a", "b"] ∧
      ∀ future, (s'.play future).completionsAmong s.next = done) ∧
    (s'.submit nextObject).queue.waiting = s'.queue.waiting ++ [.flush nextObject.context] := by
  intro s s'
  have hflush : (s.queue.waiting.head?.bind Task.flushScope?) = some ⟨1, some 1, 0⟩ := by
    decide +kernel
  cases hw : s.queue.waiting with
  | nil => simp [hw] at hflush
  | cons task rest =>
    cases task with
    | flush context =>
      have hscope : context.scope = ⟨1, some 1, 0⟩ := by
        simpa [hw, Task.flushScope?] using hflush
      obtain ⟨hcount, -, hserved, hfresh⟩ := panic_contained .withHelper {} .localProcess panickingSink
        _ rest (.text "sink") hw (by decide +kernel)
      obtain ⟨-, -, -, done, hdone, -⟩ := hserved context.scope rfl
      refine ⟨hcount, by decide +kernel, ⟨done, ?_, hdone⟩, ?_⟩
      · rw [← hdone []]
        decide +kernel
      · have hmade : (s'.accepted.all fun r => decide (r.serial < s'.made)) = true := by decide +kernel
        refine (hfresh context rfl [] nextObject (fun r hr hle => ?_) (by rw [hscope]; rfl) rfl
          (by decide +kernel) (by decide +kernel) (by decide +kernel)).2.2
        exact absurd (of_decide_eq_true (List.all_eq_true.1 hmade r hr)) (Nat.not_lt.2 hle)
    | individual request => simp [hw, Task.flushScope?] at hflush
    | command command place => simp [hw, Task.flushScope?] at hflush

end BatchStringify.Session
