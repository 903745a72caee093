import BatchStringify.Proofs.Acceptance
import BatchStringify.Proofs.Outcomes
import BatchStringify.Proofs.Unbatched

/-!
# Remote costs

What a session calls can be told from what becomes of its requests. Each request that is evaluated on its own
costs one call of `toString`, if it is an object of a scope with a thread, and no other request costs any; all
calls that only batches need are made by flushes, and a flush runs the helper once at most. So a session that
never finds batches available sends one task for each request and makes none of these calls, and a value that
needs no debuggee costs nothing at all (`remote_costs`).
-/

namespace BatchStringify.Session

variable {s : Session} {events : List Event}

/-- The calls of `toString` in a run are those of the requests that are evaluated on their own, in the order of
these evaluations. -/
theorem displays_play (own : ∀ p ∈ s.steps events, p.2.isByEmbedder = false)
    (calm : (s.play events).NeverPanicked) :
    (s.play events).callsOf Call.isDisplay = s.callsOf Call.isDisplay ++
      ((s.turns events).flatMap nextAlone).filterMap Request.displayCall? := by
  induction events generalizing s with
  | nil => exact (List.append_nil _).symm
  | cons event rest ih =>
    have hcalm : ((s.after event).play rest).NeverPanicked := calm
    have hafter := displays_after (fun p hp => own p (List.mem_append_left _ hp))
      (neverPanicked_of_play hcalm)
    have hrest := ih (s := s.after event) (fun p hp => own p (List.mem_append_right _ hp)) calm
    have hturns : (s.turns (event :: rest)).flatMap nextAlone =
        s.aloneAt event ++ ((s.after event).turns rest).flatMap nextAlone := by
      cases event with
      | turn => exact List.flatMap_cons
      | _ => rfl
    rw [play_cons, hrest, hafter, hturns, List.filterMap_append, List.append_assoc]

/-! ## Local values -/

/-- A value that needs no debuggee is never part of a batch. -/
theorem waiting_of_local (hs : s.ledger.Sound) {request : Request} (hr : request ∈ s.next)
    (isLocal : request.value.objectId? = none) :
    ∃ rest, s.queue.waiting = .individual request :: rest := by
  cases hw : s.queue.waiting with
  | nil => simp [next, hw] at hr
  | cons task rest =>
    rw [next_of_cons hw] at hr
    cases task with
    | command command scope => cases hr
    | individual request' =>
      obtain rfl := List.mem_singleton.1 hr
      exact ⟨rest, rfl⟩
    | flush context =>
      rw [carried] at hr
      cases hb : s.pending.find? context.scope.id with
      | none =>
        rw [hb] at hr
        cases hr
      | some batch =>
        rw [hb] at hr
        obtain ⟨-, hobjects⟩ := hs.batch hb
        have hobject := (hobjects request hr).2
        rw [isLocal] at hobject
        cases hobject

/-- The turn of a value that needs no debuggee calls nothing and asks nothing. -/
theorem silent_of_local {request : Request} {rest : List Task}
    (h : s.queue.waiting = .individual request :: rest)
    (isLocal : request.value.objectId? = none) : Silent s (s.after .turn) := by
  have hreacts := reacts_turn h rfl
  refine ⟨hreacts.settings, hreacts.probe, ?_⟩
  rw [after_turn_eq_contain h, exchanges_contain]
  split
  · rfl
  · show ((evaluateIndividually request).run.run (s.taken rest)).2.exchanges = s.exchanges
    have hlink : (individualText request.value request.context.scope.thread
        (s.taken rest).link).2 = s.link := by
      unfold individualText
      cases hv : request.value with
      | object tag id =>
        rw [hv] at isLocal
        cases isLocal
      | _ => rfl
    rw [run_evaluateIndividually, exchanges_complete, hlink]
    rfl

/-- What a value that needs no debuggee comes to is its text. -/
theorem outcomeAlone_of_local {v : Value} {text : String} (h : v.localText? = some text)
    (displays : Table ObjectId (Except RemoteError String)) (thread : Option ThreadId) :
    v.outcomeAlone displays thread = .ok text := by
  cases v with
  | object tag id => cases h
  | _ =>
    obtain rfl := Option.some.inj h
    rfl

theorem nextOutcome_of_local {request : Request} {rest : List Task} {text : String}
    (h : s.queue.waiting = .individual request :: rest)
    (isLocal : request.value.localText? = some text) :
    s.nextOutcome = if s.suspensions.isValid request.context.scope then
      [(request, .success text)] else [] := by
  have hanswer : s.nextAnswer? = none := by simp [nextAnswer?, h]
  have hdue : s.nextDue =
      if s.suspensions.isValid request.context.scope then [request] else [] := by
    cases hv : s.suspensions.isValid request.context.scope <;>
      simp [nextDue, h, isCancelled, Task.scope?, hv, carried]
  rw [nextOutcome, hanswer, outcomeOf_none, hdue]
  split
  · rw [List.map_singleton, Request.alone, outcomeAlone_of_local isLocal]
    rfl
  · rfl

section Start

variable {debuggee : Debuggee} {settings : DebuggerSettings} {connection : Connection}

/-- What becomes of an accepted request with a value that needs no debuggee: it is only ever completed with the
text of its value; the turn that takes its task calls nothing and asks nothing, and completes it unless its scope
has ended; and once the queue is open and empty there was such a turn. -/
theorem local_play (calm : ((start debuggee settings connection).play events).NeverPanicked)
    {request : Request} {text : String} (isLocal : request.value.localText? = some text)
    (accepted : request ∈ ((start debuggee settings connection).play events).accepted) :
    let s₀ := start debuggee settings connection
    let s := s₀.play events
    (∀ completion, (request, completion) ∈ s.completions → completion = .success text) ∧
    (∀ t ∈ s₀.turns events, request ∈ t.next → Silent t (t.after .turn) ∧
      (t.suspensions.isValid request.context.scope = true →
        s.completionsOf request = [(request, .success text)])) ∧
    (s.queue.isOpen = true → s.queue.waiting = [] → ∃ t ∈ s₀.turns events, request ∈ t.next) := by
  intro s₀ s
  have hobject : request.value.objectId? = none := by
    rw [← Option.not_isSome_iff_eq_none, ← Value.localText?_isNone, isLocal]
    simp
  have hsound := sound_start debuggee settings connection
  have ha : s.ledger.Accounts ([] ++ s₀.history events) :=
    accounts_play events (accounts_start debuggee settings connection) hsound
  have hwaits : ∀ t ∈ s₀.turns events, request ∈ t.next →
      ∃ rest, t.queue.waiting = .individual request :: rest := by
    intro t ht hr
    obtain ⟨before, after, -, rfl⟩ := exists_of_mem_turns ht
    exact waiting_of_local (sound_play before hsound) hr hobject
  refine ⟨fun completion hc => ?_, fun t ht hr => ?_, fun isOpen empty => ?_⟩
  · obtain ⟨t, ht, hp⟩ := List.mem_flatMap.1 ((completed_iff calm _).1 ⟨hc, accepted⟩)
    obtain ⟨rest, hw⟩ := hwaits t ht (mem_next_of_nextDue (mem_nextDue_of_nextOutcome hp))
    rw [nextOutcome_of_local hw isLocal] at hp
    split at hp
    · exact congrArg Prod.snd (List.mem_singleton.1 hp)
    · cases hp
  · obtain ⟨rest, hw⟩ := hwaits t ht hr
    refine ⟨silent_of_local hw hobject, fun valid => ?_⟩
    have houtcome : (request, .success text) ∈ s₀.outcomes events := by
      refine List.mem_flatMap.2 ⟨t, ht, ?_⟩
      rw [nextOutcome_of_local hw isLocal, if_pos valid]
      exact List.mem_singleton.2 rfl
    exact completionsOf_eq ha.completed_nodup ((completed_iff calm _).2 houtcome).1
  · have howing := ha.owing isOpen
    rw [waiting_eq_nil (sound_play events hsound) isOpen empty, List.append_nil] at howing
    obtain ⟨e, he, rfl⟩ := List.mem_map.1 (howing.subset accepted)
    obtain ⟨t, ht, hnext⟩ := List.mem_flatMap.1 he
    obtain ⟨r, hr, rfl⟩ := List.mem_map.1 hnext
    exact ⟨t, ht, hr⟩

end Start

variable (debuggee : Debuggee) (settings : DebuggerSettings) (connection : Connection)

/-- In a run that does not panic and in which only the session calls the debuggee: `toString` is called once for
each object of a scope with a thread that is evaluated on its own, in the order of these evaluations, and for no
other request; the requests that are submitted while a sender is left are accepted, and they are completed
exactly by such an evaluation or from the entry of a reply, and no request twice; an event runs one method at
most by its name, and only flushes make the calls that batches need; if batches are off or are never found
available, each accepted request is sent with one task of its own, no batch ever waits and no such call is made;
and a value that needs no debuggee costs no call and no question, is completed with nothing but its text, and is
completed once its task is taken in a scope that has not ended. -/
theorem remote_costs (events : List Event)
    (calm : ((start debuggee settings connection).play events).NeverPanicked)
    (own : ∀ p ∈ (start debuggee settings connection).steps events, p.2.isByEmbedder = false) :
    let s₀ := start debuggee settings connection
    let s := s₀.play events
    s.callsOf Call.isDisplay =
      ((s₀.turns events).flatMap nextAlone).filterMap Request.displayCall? ∧
    (((s₀.turns events).flatMap fun t => t.nextAlone ++ t.nextReplied.map (·.1)).map
      (·.serial)).Nodup ∧
    s.accepted = acceptedIn (s₀.steps events) ∧
    (∀ p, p ∈ s.completions ∧ p.1 ∈ s.accepted ↔ ∃ t ∈ s₀.turns events,
      p ∈ t.nextAlone.map (Request.alone t.link.debuggee.displays) ∨
        p ∈ t.nextReplied.map fun q => q.1.answered q.2) ∧
    (∀ before event after, events = before ++ event :: after →
      let made := (s₀.play before).exchangesSince ((s₀.play before).after event)
      made.countP (·.1.isInvocation) ≤ 1 ∧
      ∀ x ∈ made, x.1.isBatchCall = true → event = .turn ∧ ∃ context rest,
        (s₀.play before).queue.waiting = .flush context :: rest ∧
        (s₀.play before).suspensions.isValid context.scope = true) ∧
    (settings.batchEvaluation = false ∨ (∀ p ∈ s₀.steps events, Refused p.1 p.2) →
      s.sentToServe = s.accepted.map .individual ∧
      s.queue.enqueued = s.accepted.length + (s.queue.sent.filter Task.isCommand).length ∧
      s.pending = .empty ∧ (∀ p ∈ s₀.steps events, p.1.pending = .empty) ∧
      ∀ x ∈ s.exchanges, x.1.isBatchCall = false) ∧
    (∀ p ∈ s₀.steps events, ∀ submission,
      p.2 = .submit submission ∨ p.2 = .submitRequest submission →
      submission.value.objectId? = none → Silent p.1 (p.1.after (.step p.2))) ∧
    ∀ request ∈ s.accepted, ∀ text, request.value.localText? = some text →
      (∀ completion, (request, completion) ∈ s.completions → completion = .success text) ∧
      (∀ t ∈ s₀.turns events, request ∈ t.next → Silent t (t.after .turn) ∧
        (t.suspensions.isValid request.context.scope = true →
          s.completionsOf request = [(request, .success text)])) ∧
      (s.queue.isOpen = true → s.queue.waiting = [] → ∃ t ∈ s₀.turns events, request ∈ t.next) := by
  intro s₀ s
  refine ⟨displays_play own calm, ?_, s₀.accepted_play events, fun p => ?_, ?_, ?_, ?_, ?_⟩
  · -- the evaluations and the replies are the outcomes of the turns, which are of different requests
    have hserials : (s₀.outcomes events).map (·.1.serial) = ((s₀.turns events).flatMap fun t =>
        t.nextAlone ++ t.nextReplied.map (·.1)).map (·.serial) := by
      simp only [← map_fst_nextOutcome, ← List.map_flatMap, List.map_map]
      rfl
    rw [← hserials]
    exact outcomes_nodup calm
  · rw [completed_iff calm]
    simp only [outcomes, List.mem_flatMap, nextOutcome, outcomeOf, List.mem_append]
    rfl
  · rintro before event after rfl
    have hown : ∀ p ∈ (s₀.play before).stepsAt event, p.2.isByEmbedder = false := by
      intro p hp
      refine own p ?_
      rw [steps_append]
      exact List.mem_append_right _ (List.mem_append_left _ hp)
    exact ⟨once_after hown, fun x hx hbatch => flush_of_batchCall hown hx hbatch⟩
  · -- with batches off every step is refused too, since no step changes the settings
    intro hrefused
    refine unbatched_play fun p hp => ⟨own p hp, ?_⟩
    rcases hrefused with hoff | hrefused
    · have hpasses := s₀.passes_playUnder (events.map (id, ·))
      rw [(s₀.playUnder_id events).2] at hpasses
      have hsettings : p.1.settings = settings := hpasses.settings.2 p hp
      exact refused_of_off (hsettings ▸ hoff) p.2
    · exact hrefused p hp
  · -- only objects ask the probe
    intro p hp submission hsubmission hlocal
    have hasks := asks_perform p.1 p.2
    have hquery : p.1.query? p.2 = none := by
      rcases hsubmission with h | h <;> rw [h] <;> simp [query?, hlocal]
    have hpresent : p.2 ≠ .processDetached := by
      rcases hsubmission with h | h <;> rw [h] <;> exact fun h => by cases h
    have hsub : p.2.isSubmission = true := by
      rcases hsubmission with h | h <;> rw [h] <;> rfl
    obtain ⟨hprobe, hexchanges⟩ := hasks.unasked hquery hpresent
    exact ⟨hasks.settings, hprobe, hexchanges hsub⟩
  · exact fun request hr text hlocal => local_play calm hlocal hr

/-- A number from a scope that ends before its task is taken. -/
def endedBeforeServed : List Event :=
  [.step (.suspend 0 (some 1)),
    .step (.submit ⟨"b", .int 7, ⟨0, none, none⟩, ⟨[], [], [], none⟩⟩),
    .step (.invalidate 0), .turn]

/-- So that a scope is valid when the task is taken cannot be left out: otherwise the request is dropped, although
it was accepted and its value needs no debuggee. -/
theorem local_value_dropped :
    let s₀ := start {} {} .localProcess
    let s := s₀.play endedBeforeServed
    s.NeverPanicked ∧ (∀ p ∈ s₀.steps endedBeforeServed, p.2.isByEmbedder = false) ∧
    s.queue.isOpen = true ∧ s.queue.waiting = [] ∧
    s.accepted.map (·.value.localText?) = [some "7"] ∧ s.completions = [] := by
  intro s₀ s
  exact ⟨neverPanicked_iff.2 (by decide +kernel), by decide +kernel, rfl, by decide +kernel,
    by decide +kernel, by decide +kernel⟩

/-- An object that a batch answers for, a number, an object from a stop without a thread, and, once the debuggee
was attached again from afar, an object that is evaluated on its own. -/
def threeWays : List Event :=
  [.step (.suspend 0 (some 1)), .step (.suspend 0 none),
    .step (.submit ⟨"a", .object 76 2, ⟨0, none, none⟩, ⟨[], [], [], none⟩⟩),
    .step (.submit ⟨"b", .int 7, ⟨0, none, none⟩, ⟨[], [], [], none⟩⟩), .turn, .turn,
    .step .processDetached,
    .step (.submit ⟨"c", .object 76 3, ⟨1, none, some .remote⟩, ⟨[], [], [], none⟩⟩),
    .step (.submit ⟨"d", .object 76 4, ⟨0, none, some .remote⟩, ⟨[], [], [], none⟩⟩),
    .turn, .turn]

/-- Of the four requests, all of which are completed, one costs a call of `toString`. If batches are off, the
first one costs another, and no array is ever made. -/
theorem remote_costs_threeWays :
    let s := (start .withHelper {} .localProcess).play threeWays
    let s' := (start .withHelper { batchEvaluation := false } .localProcess).play threeWays
    s.completions.length = 4 ∧ s.callsOf Call.isDisplay = [.invokeToString 1 4] ∧
    (∃ x ∈ s.exchanges, x.1.isInvocation = true) ∧
    (∀ request ∈ s.accepted, ∀ text, request.value.localText? = some text →
      ∀ completion, (request, completion) ∈ s.completions → completion = .success text) ∧
    s'.callsOf Call.isDisplay = [.invokeToString 1 2, .invokeToString 1 4] ∧
    s'.queue.enqueued = 4 ∧ s'.pending = .empty ∧ ∀ x ∈ s'.exchanges, x.1.isBatchCall = false := by
  intro s s'
  obtain ⟨hdisplays, -, -, -, -, -, -, hlocal⟩ := remote_costs .withHelper {} .localProcess threeWays
    (neverPanicked_iff.2 (by decide +kernel)) (by decide +kernel)
  obtain ⟨hdisplays', -, -, -, -, hunbatched, -, -⟩ :=
    remote_costs .withHelper { batchEvaluation := false } .localProcess threeWays
      (neverPanicked_iff.2 (by decide +kernel)) (by decide +kernel)
  obtain ⟨-, hcount, hpending, -, hcalls⟩ := hunbatched (.inl rfl)
  refine ⟨by decide +kernel, hdisplays.trans (by decide +kernel), by decide +kernel, ?_,
    hdisplays'.trans (by decide +kernel), hcount.trans (by decide +kernel), hpending, hcalls⟩
  exact fun request hr text ht => (hlocal request hr text ht).1

end BatchStringify.Session
