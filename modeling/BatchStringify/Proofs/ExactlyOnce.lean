import BatchStringify.Proofs.Ledger.Accounts

/-!
# Every request comes to one end

A request moves from a batch or a task to the evaluation that completes it, and on every way there
it could get lost or be served twice. Neither happens: whatever a run does, no request is completed
twice, and once the queue has come to rest without a panic, each request that was accepted was
carried by exactly one turn, which completed it exactly if its scope was still valid.
-/

namespace BatchStringify.Session

/-- The completions of one request. -/
def completionsOf (s : Session) (request : Request) : List (Request × Completion) :=
  s.completions.filter fun p => p.1.serial = request.serial

/-- Whether no task has ended with a panic. -/
def NeverPanicked (s : Session) : Prop :=
  ∀ cancelled payload, Entry.notice (.commandPanicked cancelled payload) ∉ s.link.journal

theorem neverPanicked_iff {s : Session} : s.NeverPanicked ↔ s.ledger.panics = [] := by
  show _ ↔ s.link.journal.filterMap Entry.panic? = []
  rw [List.filterMap_eq_nil_iff]
  constructor
  · intro h entry he
    cases entry with
    | notice notice =>
      cases notice with
      | commandPanicked cancelled payload => exact absurd he (h cancelled payload)
      | _ => rfl
    | _ => rfl
  · intro h cancelled payload he
    exact absurd (h _ he) (by simp [Entry.panic?])

theorem accepted_submit (s : Session) (request : Request) :
    (s.submit request).accepted =
      if s.queue.hasSender then s.accepted ++ [request] else s.accepted := by
  show (s.submit request).ledger.accepted = _
  rcases s.ledger_submit request with ⟨hs, h⟩ | ⟨hs, h | ⟨-, h⟩⟩ <;> rw [h, hs]
  · rfl
  · rfl
  · rw [Ledger.accepted_join]
    rfl

/-- A completion with the number of a request is the only one. -/
theorem completionsOf_eq {s : Session} (h : (s.completions.map (·.1.serial)).Nodup)
    {request : Request} {completion : Completion} (hc : (request, completion) ∈ s.completions) :
    s.completionsOf request = [(request, completion)] := by
  obtain ⟨before, after, happ⟩ := List.append_of_mem hc
  unfold completionsOf
  rw [happ] at h ⊢
  rw [List.map_append, List.map_cons, List.nodup_middle, List.nodup_cons] at h
  have hnone : ∀ p ∈ before ++ after, ¬p.1.serial = request.serial := by
    intro p hp heq
    rw [← List.map_append] at h
    exact h.1 (heq ▸ List.mem_map_of_mem hp)
  rw [List.filter_append, List.filter_cons_of_pos (by simp)]
  rw [List.filter_eq_nil_iff.2 fun p hp => by simpa using hnone p (List.mem_append_left _ hp)]
  rw [List.filter_eq_nil_iff.2 fun p hp => by simpa using hnone p (List.mem_append_right _ hp)]
  rfl

/-- A request of the past was carried by one turn only. -/
theorem carried_once {s : Session} {events : List Event} {request : Request}
    (h : ((s.history events).map (·.1.serial)).Nodup)
    (hr : request ∈ (s.history events).map (·.1)) :
    ∃ before t after, s.turns events = before ++ t :: after ∧ request ∈ t.next ∧
      (∀ t' ∈ before ++ after, request ∉ t'.next) ∧
      (request, t.suspensions.isValid request.context.scope) ∈ s.history events := by
  obtain ⟨e, he, rfl⟩ := List.mem_map.1 hr
  obtain ⟨t, ht, hnext⟩ := List.mem_flatMap.1 he
  obtain ⟨r, hin, rfl⟩ := List.mem_map.1 hnext
  obtain ⟨before, after, happ⟩ := List.append_of_mem ht
  refine ⟨before, t, after, happ, hin, ?_, he⟩
  intro t' ht' hr'
  -- a second turn would repeat the number of the request
  have hserials : (s.history events).map (·.1.serial) =
      (s.turns events).flatMap fun t => t.next.map (·.serial) := by
    unfold history
    rw [List.map_flatMap]
    simp only [List.map_map]
    rfl
  rw [hserials, happ] at h
  rw [List.flatMap_append, List.flatMap_cons] at h
  have hperm : ((before.flatMap fun t => t.next.map (·.serial)) ++ (t.next.map (·.serial) ++
      after.flatMap fun t => t.next.map (·.serial))).Perm (t.next.map (·.serial) ++
        (before ++ after).flatMap fun t => t.next.map (·.serial)) := by
    rw [List.flatMap_append, ← List.append_assoc, ← List.append_assoc]
    exact List.perm_append_comm.append_right _
  rw [hperm.nodup_iff, List.nodup_append] at h
  refine h.2.2 r.serial (List.mem_map_of_mem hin) r.serial ?_ rfl
  exact List.mem_flatMap.2 ⟨t', ht', List.mem_map_of_mem hr'⟩

variable (debuggee : Debuggee) (settings : DebuggerSettings) (connection : Connection)

/-- No request is accepted twice or completed twice, whatever happens. Once the queue is open and
empty and nothing has panicked, each request that was accepted was carried by exactly one turn, and
it was completed once if its scope was valid then and not at all otherwise. -/
theorem completed_exactly_once (events : List Event) :
    let s := (start debuggee settings connection).play events
    (∀ request, (s.submit request).accepted =
      if s.queue.hasSender then s.accepted ++ [request] else s.accepted) ∧
    (s.accepted.map (·.serial)).Nodup ∧
    (s.completions.map (·.1.serial)).Nodup ∧
    (s.queue.isOpen = true → s.queue.waiting = [] → s.NeverPanicked →
      ∀ request ∈ s.accepted, ∃ before t after,
        (start debuggee settings connection).turns events = before ++ t :: after ∧
        request ∈ t.next ∧ (∀ t' ∈ before ++ after, request ∉ t'.next) ∧
        (t.suspensions.isValid request.context.scope = true →
          ∃ completion, s.completionsOf request = [(request, completion)]) ∧
        (t.suspensions.isValid request.context.scope = false → s.completionsOf request = [])) := by
  intro s
  have hstart := sound_start debuggee settings connection
  have hs : s.ledger.Sound := sound_play events hstart
  have ha : s.ledger.Accounts ([] ++ (start debuggee settings connection).history events) :=
    accounts_play events (accounts_start debuggee settings connection) hstart
  rw [List.nil_append] at ha
  have hcompleted : (s.completions.map (·.1.serial)).Nodup := ha.completed_nodup
  refine ⟨s.accepted_submit, ha.accepted_nodup, hcompleted, ?_⟩
  intro isOpen empty hpanics request hr
  have hwaiting := waiting_eq_nil hs isOpen empty
  have howing := ha.owing isOpen
  have hnodup := ha.owed_nodup
  rw [hwaiting, List.append_nil] at howing hnodup
  rw [List.map_map] at hnodup
  obtain ⟨before, t, after, happ, hnext, hothers, hpast⟩ :=
    carried_once hnodup (howing.subset hr)
  obtain ⟨hvalid, hinvalid⟩ := ha.fates (neverPanicked_iff.1 hpanics) _ hpast
  refine ⟨before, t, after, happ, hnext, hothers, fun hv => ?_, fun hv => ?_⟩
  · obtain ⟨completion, hc⟩ := hvalid hv
    exact ⟨completion, completionsOf_eq hcompleted hc⟩
  · refine List.filter_eq_nil_iff.2 fun p hp => ?_
    simpa using hinvalid hv p hp

/-- If all scopes were valid when their tasks were taken, then all accepted requests come to completion. -/
theorem exists_completion {debuggee : Debuggee} {settings : DebuggerSettings}
    {connection : Connection} {events : List Event}
    (isOpen : ((start debuggee settings connection).play events).queue.isOpen = true)
    (empty : ((start debuggee settings connection).play events).queue.waiting = [])
    (panics : ((start debuggee settings connection).play events).NeverPanicked)
    (valid : ∀ e ∈ (start debuggee settings connection).history events, e.2 = true)
    {request : Request}
    (hr : request ∈ ((start debuggee settings connection).play events).accepted) :
    ∃ completion,
      (request, completion) ∈ ((start debuggee settings connection).play events).completions := by
  have hstart := sound_start debuggee settings connection
  have ha := accounts_play events (accounts_start debuggee settings connection) hstart
  have howing := ha.owing isOpen
  rw [waiting_eq_nil (sound_play events hstart) isOpen empty, List.append_nil] at howing
  obtain ⟨e, he, rfl⟩ := List.mem_map.1 (howing.subset hr)
  exact (ha.fates (neverPanicked_iff.1 panics) e he).1 (valid e he)

/-- Two stops, of which the second is over before its batch is evaluated. -/
def endedStop : List Event :=
  [.step (.suspend 0 (some 1)), .step (.suspend 0 (some 1)),
    .step (.submit ⟨"a", .object 76 2, ⟨0, none, none⟩, ⟨[], [], [], none⟩⟩),
    .step (.submit ⟨"b", .object 76 3, ⟨1, none, none⟩, ⟨[], [], [], none⟩⟩),
    .step (.invalidate 1), .turn, .turn]

/-- Of the two requests, both carried, one was completed. -/
theorem completed_exactly_once_endedStop :
    let s := (start .withHelper {} .localProcess).play endedStop
    s.accepted.length = 2 ∧ s.completions.length = 1 ∧
    ∀ request ∈ s.accepted, ∃ before t after,
      (start .withHelper {} .localProcess).turns endedStop = before ++ t :: after ∧
      request ∈ t.next ∧ (∀ t' ∈ before ++ after, request ∉ t'.next) ∧
      (t.suspensions.isValid request.context.scope = true →
        ∃ completion, s.completionsOf request = [(request, completion)]) ∧
      (t.suspensions.isValid request.context.scope = false → s.completionsOf request = []) :=
  ⟨by decide +kernel, by decide +kernel,
    (completed_exactly_once .withHelper {} .localProcess endedStop).2.2.2 (by decide +kernel)
      (List.isEmpty_iff.1 (by decide +kernel)) (neverPanicked_iff.2 (by decide +kernel))⟩

end BatchStringify.Session
