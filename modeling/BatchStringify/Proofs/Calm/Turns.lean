import BatchStringify.Proofs.Calm.Basic
import BatchStringify.Proofs.Exhaustion

/-!
# Running the queue of a calm session

A turn of a calm session settles the requests of one task and leaves the outlook as it is, so the
session stays calm. What is due to a request is left open here: what it comes to alone, or what a helper
says about it. Once the queue has run empty, all requests that waited have got their due, whatever tasks
they came in (`calm_runPending`).
-/

namespace BatchStringify.Session

variable {s : Session} {due : Request → Request × Completion}

/-- The next task of a session was taken, and its requests were settled from the session as it was. -/
structure Settles (due : Request → Request × Completion) (s s' : Session) : Prop where
  outlook : s'.outlook = s.outlook
  settings : s'.settings = s.settings
  queue : s'.queue = { s.queue with waiting := s.queue.waiting.tail }
  waiting : s.ledger.waiting.Perm (s.next ++ s'.ledger.waiting)
  completions : s'.completions = s.completions ++ s.outlook.settle due s.next

/-- Whether the next task, if it is run, brings its requests what is due to them. -/
structure NextGives (due : Request → Request × Completion) (s : Session) : Prop where
  individual : ∀ request, s.queue.waiting.head? = some (.individual request) →
    s.suspensions.isValid request.context.scope = true →
      due request = request.alone s.link.debuggee.displays
  flush : ∀ context, s.queue.waiting.head? = some (.flush context) →
    s.suspensions.isValid context.scope = true → BatchGives due context s.next s

theorem execute_of_ok {task : Task} {s' : Session} (h : (s.act task).run.run s = (.ok (), s')) :
    execute task s = s' := by
  unfold act at h
  unfold execute
  dsimp only
  rw [h]

/-- Requests of one scope are all settled or none of them is. -/
theorem settle_of_scope {scope : Scope} {requests : List Request} (o : Outlook)
    (h : ∀ r ∈ requests, r.context.scope = scope) :
    o.settle due requests =
      if o.suspensions.isValid scope then requests.map due else [] := by
  unfold Outlook.settle
  cases hv : o.suspensions.isValid scope with
  | false =>
    rw [List.filter_eq_nil_iff.2 fun r hr => by rw [h r hr, hv]; simp]
    rfl
  | true =>
    rw [List.filter_eq_self.2 fun r hr => by rw [h r hr, hv]]
    rfl

/-- What is left to show of a turn once its task was taken: only the link changes, and the requests
are completed if their scope is valid. -/
theorem settles_of_taken (h : s.Calm) {scope : Scope} {s₁ s' : Session}
    (takes : s.ledger.Takes scope s.next s₁.ledger) (outlook : s₁.outlook = s.outlook)
    (settings : s₁.settings = s.settings)
    (queue : s₁.queue = { s.queue with waiting := s.queue.waiting.tail }) (only : OnlyLink s₁ s')
    (completed : s'.ledger =
      s₁.ledger.complete (if s.suspensions.isValid scope then s.next.map due else [])) :
    Settles due s s' := by
  obtain ⟨-, hs₁, -⟩ := takes.keeps
  have hoc := only.outlook
  obtain ⟨link, rfl, -⟩ := only
  refine ⟨hoc.trans outlook, settings, queue, ?_, ?_⟩
  · rw [completed]
    exact takes.waiting_perm h.sound
  · rw [settle_of_scope _ (takes.scope_eq h.sound)]
    have hc := congrArg Ledger.completed completed
    show (s₁.withLink link).ledger.completed = _
    rw [hc]
    exact congrArg (· ++ _) hs₁

theorem settles_individual (h : s.Calm) (gives : NextGives due s) {request : Request}
    {rest : List Task} (hw : s.queue.waiting = .individual request :: rest) :
    Settles due s (s.after .turn) := by
  have takes := ledger_taken_individual hw
  have hnext : s.next = [request] := next_of_cons hw
  -- a calm session holds only plain sinks, which do not panic
  have plain : request.sink.isPlain = true := by
    refine h.sinks request ((takes.waiting_perm h.sound).symm.subset ?_)
    rw [hnext]
    exact List.mem_cons_self
  have hact : (s.taken rest).act (.individual request) =
      if s.suspensions.isValid request.context.scope then run (.individual request)
      else cancel (.individual request) := act_of_scope rfl _
  have hqueue : (s.taken rest).queue = { s.queue with waiting := s.queue.waiting.tail } := by
    rw [hw]
    rfl
  rw [after_turn_of_cons hw]
  cases hv : s.suspensions.isValid request.context.scope with
  | false =>
    have hend : execute (.individual request) (s.taken rest) = s.taken rest :=
      execute_of_ok (by rw [hact, hv]; rfl)
    rw [hend]
    refine settles_of_taken h takes rfl rfl hqueue (Std.Refl.refl _) ?_
    rw [hv]
    exact (Ledger.complete_nil _).symm
  | true =>
    have honly := onlyLink_evaluateIndividually (Sink.isMild_of_isPlain plain) (s.taken rest)
    have hl := ledger_evaluateIndividually request (s.taken rest)
    have hok : ((evaluateIndividually request).run.run (s.taken rest)).1 = .ok () := by
      rw [run_evaluateIndividually]
      exact complete_eq_ok (Sink.panic_of_isPlain plain) _ _
    rcases hr : (evaluateIndividually request).run.run (s.taken rest) with ⟨payload | _, s'⟩
    · rw [hr] at hok
      cases hok
    · rw [hr] at honly hl
      rw [execute_of_ok (by rw [hact, hv]; exact hr)]
      refine settles_of_taken h takes rfl rfl hqueue honly ?_
      rw [hv, hnext]
      rw [← show due request = request.alone (s.taken rest).link.debuggee.displays from
        gives.individual request (by rw [hw]; rfl) hv] at hl
      exact hl

/-- A batch that is flushed next is one of objects of the flush's scope. -/
theorem objects_of_flush (sound : s.ledger.Sound) {context : Context} {rest : List Task}
    (hw : s.queue.waiting = .flush context :: rest) :
    ∀ r ∈ s.next, r.context.scope = context.scope ∧ r.value.objectId?.isSome := by
  have takes : s.ledger.Takes context.scope s.next
      ((s.taken rest).takePending context.scope.id).2.ledger := ledger_taken_flush hw
  intro r hr
  refine ⟨takes.scope_eq sound r hr, ?_⟩
  rw [next_of_cons hw] at hr
  replace hr : r ∈ (s.pending.find? context.scope.id).getD [] := hr
  cases hp : s.pending.find? context.scope.id with
  | none =>
    rw [hp] at hr
    cases hr
  | some batch =>
    rw [hp] at hr
    exact ((sound.batch hp).2 r hr).2

theorem settles_flush (h : s.Calm) (gives : NextGives due s) {context : Context} {rest : List Task}
    (hw : s.queue.waiting = .flush context :: rest) : Settles due s (s.after .turn) := by
  have takes : s.ledger.Takes context.scope s.next
      ((s.taken rest).takePending context.scope.id).2.ledger := ledger_taken_flush hw
  have hnext : s.next = (s.pending.find? context.scope.id).getD [] := next_of_cons hw
  have hact : (s.taken rest).act (.flush context) =
      if s.suspensions.isValid context.scope then run (.flush context)
      else cancel (.flush context) := act_of_scope rfl _
  have taken : (s.taken rest).takePending context.scope.id =
      (s.next, ((s.taken rest).takePending context.scope.id).2) := by
    rw [hnext]
    rfl
  have hqueue : ((s.taken rest).takePending context.scope.id).2.queue =
      { s.queue with waiting := s.queue.waiting.tail } := by
    rw [hw]
    rfl
  rw [after_turn_of_cons hw]
  cases hv : s.suspensions.isValid context.scope with
  | false =>
    -- the batch is taken off the table, and nothing of it is completed
    have hend : execute (.flush context) (s.taken rest) = (s.taken rest).discard context.scope.id :=
      execute_of_ok (by rw [hact, hv]; rfl)
    have honly : OnlyLink ((s.taken rest).takePending context.scope.id).2
        ((s.taken rest).discard context.scope.id) := ⟨_, rfl, .refl _⟩
    rw [hend]
    refine settles_of_taken h takes rfl rfl hqueue honly ?_
    rw [hv]
    exact (ledger_note _ rfl).trans (Ledger.complete_nil _).symm
  | true =>
    have plain : ∀ r ∈ s.next, r.sink.isPlain = true := fun r hr =>
      h.sinks r ((takes.waiting_perm h.sound).symm.subset (List.mem_append_left _ hr))
    obtain ⟨returns, answered, alone⟩ := gives.flush context (by rw [hw]; rfl) hv
    obtain ⟨s', hrun, honly, hl⟩ := flush_plain taken plain ⟨returns, answered, alone⟩
    rw [execute_of_ok (by rw [hact, hv]; exact hrun)]
    refine settles_of_taken h takes rfl rfl hqueue honly ?_
    rw [hv]
    exact hl

/-- A turn of a calm session settles the requests of one task. -/
theorem settles_turn (h : s.Calm) (gives : NextGives due s) : Settles due s (s.after .turn) := by
  cases hw : s.queue.waiting with
  | nil =>
    have hnext : s.next = [] := by
      rw [next, hw]
      rfl
    rw [after_turn_of_nil hw]
    refine ⟨rfl, rfl, ?_, ?_, ?_⟩
    · rw [hw, List.tail_nil, ← hw]
    · rw [hnext, List.nil_append]
    · rw [hnext]
      exact (List.append_nil _).symm
  | cons task rest =>
    cases task with
    | flush context => exact settles_flush h gives hw
    | individual request => exact settles_individual h gives hw
    | command command scope =>
      have hc := h.tasks (.command command scope) (by rw [hw]; exact List.mem_cons_self)
      cases hc

theorem Settles.calm {s' : Session} (hs : Settles due s s') (hsound : s'.ledger.Sound) (h : s.Calm) :
    s'.Calm where
  isOpen := by
    rw [hs.queue]
    exact h.isOpen
  hasSender := by
    rw [hs.queue]
    exact h.hasSender
  sound := hsound
  tasks := by
    rw [hs.queue]
    exact fun task ht => h.tasks task (List.mem_of_mem_tail ht)
  sinks := fun r hr => h.sinks r (hs.waiting.symm.subset (List.mem_append_right _ hr))

/-- Turns of a calm session settle some of the requests that waited, and the others go on waiting. -/
theorem calm_turns (n : Nat) (h : s.Calm)
    (hs : ∀ t ∈ s.turns (List.replicate n .turn), Settles due t (t.after .turn)) :
    let s' := s.play (List.replicate n .turn)
    s'.Calm ∧ s'.outlook = s.outlook ∧ s'.settings = s.settings ∧
    (∀ task ∈ s'.queue.waiting, task ∈ s.queue.waiting) ∧
    ∃ past, s.ledger.waiting.Perm (past ++ s'.ledger.waiting) ∧
      s'.completions = s.completions ++ s.outlook.settle due past := by
  induction n generalizing s with
  | zero => exact ⟨h, rfl, rfl, fun _ ht => ht, [], .refl _, (List.append_nil _).symm⟩
  -- what the first turn took comes before what the others took
  | succ n ih =>
    have hfirst := hs s List.mem_cons_self
    have hcalm := hfirst.calm (sound_turn h.sound) h
    obtain ⟨hcalm', houtlook, hsettings, htasks, past, hwaiting, hcompletions⟩ :=
      ih hcalm fun t ht => hs t (List.mem_cons_of_mem _ ht)
    refine ⟨hcalm', houtlook.trans hfirst.outlook, hsettings.trans hfirst.settings, ?_,
      s.next ++ past, ?_, ?_⟩
    · intro task ht
      have hm := htasks task ht
      rw [hfirst.queue] at hm
      exact List.mem_of_mem_tail hm
    · rw [List.append_assoc]
      exact hfirst.waiting.trans (hwaiting.append_left _)
    · rw [Outlook.settle_append, ← List.append_assoc, ← hfirst.completions, ← hfirst.outlook]
      exact hcompletions

/-- Running the queue of a calm session settles all requests that waited. -/
theorem calm_runPending (h : s.Calm) (hs : ∀ t ∈ s.turns (List.replicate s.runPending.1 .turn),
      Settles due t (t.after .turn)) :
    let s' := s.runPending.2
    s'.Calm ∧ s'.outlook = s.outlook ∧ s'.settings = s.settings ∧
    s'.queue.waiting = [] ∧ s'.ledger.waiting = [] ∧
    ∃ done, s'.completions = s.completions ++ done ∧
      done.Perm (s.outlook.settle due s.ledger.waiting) := by
  intro s'
  have hplay : s' = s.play (List.replicate s.runPending.1 .turn) := drain_eq_play s.work s
  obtain ⟨hcalm, houtlook, hsettings, -, past, hwaiting, hcompletions⟩ := calm_turns _ h hs
  rw [← hplay] at hcalm houtlook hsettings hwaiting hcompletions
  have hempty : s'.queue.waiting = [] := waiting_runPending s
  have hnone := waiting_eq_nil hcalm.sound hcalm.isOpen hempty
  rw [hnone, List.append_nil] at hwaiting
  exact ⟨hcalm, houtlook, hsettings, hempty, hnone, _, hcompletions,
    s.outlook.settle_perm due hwaiting.symm⟩

/-! ## Faithful helpers -/

/-- A faithful helper makes a task give what its requests come to alone. -/
theorem nextGives_alone (h : s.Calm) (faithful : s.FaithfulAt) :
    NextGives (Request.alone s.outlook.displays) s where
  individual := fun _ _ _ => rfl
  flush := by
    intro context hhead hv
    obtain ⟨rest, hw⟩ := List.head?_eq_some_iff.1 hhead
    exact batchGives_alone (objects_of_flush h.sound hw) (faithful context hhead hv)

/-- Turns with a faithful helper settle requests with what they come to alone, and they do not change
what that is. -/
theorem settles_faithful (n : Nat) (h : s.Calm)
    (faithful : ∀ t ∈ s.turns (List.replicate n .turn), t.FaithfulAt) :
    ∀ t ∈ s.turns (List.replicate n .turn),
      Settles (Request.alone s.outlook.displays) t (t.after .turn) := by
  induction n generalizing s with
  | zero => exact fun t ht => by cases ht
  | succ n ih =>
    have hs := settles_turn h (nextGives_alone h (faithful s List.mem_cons_self))
    intro t ht
    rcases List.mem_cons.1 ht with rfl | ht
    · exact hs
    · have hrest := ih (hs.calm (sound_turn h.sound) h)
        (fun t ht => faithful t (List.mem_cons_of_mem _ ht)) t ht
      rwa [hs.outlook] at hrest

end BatchStringify.Session
