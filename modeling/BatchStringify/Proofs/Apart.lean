import BatchStringify.Proofs.Windows

/-!
# Sessions with one scope apart

One scope of a session may have sinks that panic, and all others only take their texts (`Apart`). Then a turn
that serves the scope at hand, or is cut off by a panic there, changes nothing for the other scopes, and a turn
that serves another scope brings its requests what was settled for them at the outset (`Bestows`). So a run of
the queue settles the window of the other scopes, whatever else it does.
-/

namespace BatchStringify

theorem Submission.connection_of_isApart {index : Nat} {submission : Submission}
    (h : submission.isApart index = true) : submission.place.connection = none := by
  simp only [isApart, Bool.and_eq_true, Option.isNone_iff_eq_none] at h
  exact h.1.1

theorem Step.isPreparation_of_isApart {index : Nat} {step : Step} (h : step.isApart index = true) :
    step.isPreparation = true := by
  cases step <;> first | rfl | cases h

namespace Session

/-- Whether a session is ready and grounded in an earlier one, its sinks do nothing besides taking the text or
panicking, and only those of the scope at a position may panic. -/
structure Apart (index : Nat) (o s : Session) : Prop extends Ready s, Grounded o s where
  sinks : ∀ r ∈ s.ledger.waiting, r.sink.isMild = true ∧
    (r.isElsewhere index = true → r.sink.panic = none)

/-- Whether what is due to the requests that wait for other scopes than the one at a position is what they
come to in the tasks that they wait for. -/
structure Awaits (index : Nat) (o : Session) (due : Request → Option Completion) (s : Session) :
    Prop where
  single : ∀ r, Task.individual r ∈ s.queue.waiting → r.isElsewhere index = true →
    due r = some (o.aloneVerdict r.context.scope r.value)
  batch : ∀ scope requests, s.pending.find? scope.id = some requests →
    (∀ r ∈ requests, r.context.scope = scope) → scope.id ≠ index + 1 →
      requests.map due = o.batchVerdicts scope (requests.map (·.value))

/-- What is due to a request is given to it if its scope is valid. -/
def bestowed (s : Session) (due : Request → Option Completion) (r : Request) :
    Option (Request × Completion) :=
  if s.suspensions.isValid r.context.scope then given due r else none

/-- How some requests that waited were settled: those for other scopes than the one at a position were given
what is due to them, and nothing else has changed that matters to the rest. -/
structure Bestows (index : Nat) (due : Request → Option Completion) (settled : List Request)
    (s s' : Session) : Prop where
  outlook : s'.outlook = s.outlook
  waiting : s.ledger.waiting.Perm (settled ++ s'.ledger.waiting)
  completions : ∃ done, s'.completions = s.completions ++ done ∧ (∀ p ∈ done, p.1 ∈ settled) ∧
    done.filter (·.1.isElsewhere index) =
      (settled.filter (·.isElsewhere index)).filterMap (s.bestowed due)

variable {index : Nat} {o s : Session} {due : Request → Option Completion} {task : Task}
  {rest : List Task}

/-! ## Turns -/

/-- A turn changes nothing but the link once its task was taken. -/
theorem Apart.onlyLink (h : Apart index o s) (hw : s.queue.waiting = task :: rest)
    (served : task.isCommand = false) : OnlyLink (s.released task rest) (s.after .turn) := by
  have hnotes : ∀ (t : Session) notice, OnlyLink t (t.note notice) :=
    fun t notice => ⟨_, rfl, .refl _⟩
  have hcompletes : ∀ r ∈ s.next, ∀ completion, Along OnlyLink (complete r completion) := by
    intro r hr
    obtain ⟨scope, hserves⟩ := Task.isCommand_eq_false_iff.1 served
    have hc := carries_turn hw hserves
    generalize (s.after .turn).ledger = l' at hc
    obtain ⟨takes, -, -, -, -, -⟩ := hc
    have hwaits : r ∈ s.ledger.waiting :=
      (takes.waiting_perm h.sound).symm.subset (List.mem_append_left _ hr)
    exact onlyLink_complete (h.sinks r hwaits).1
  exact along_turn onlyLink_withLink (fun _ => onlyLink_withLink) hcompletes hnotes hw served

/-- Taking a task that serves requests, with its batch, leaves a session grounded. -/
theorem Grounded.released (h : Grounded o s) (hw : s.queue.waiting = task :: rest) :
    Grounded o (s.released task rest) := by
  refine ⟨h.settings, h.connection, h.setup, h.numbered, h.probe, fun hne => ?_, fun r hr => ?_⟩
  · refine h.gathered fun hnone => hne ?_
    rw [Session.released]
    cases task.flushScope? with
    | none => exact hnone
    | some scope => simp [Table.erase, hnone]
  · refine h.single r ?_
    rw [hw]
    exact List.mem_cons_of_mem _ hr

/-- What belongs to requests of one scope is all for another scope than the one at a position, or none of it
is. -/
theorem filter_isElsewhere {α : Type} {f : α → Request} {l : List α} {scope : Scope}
    (own : ∀ a ∈ l, (f a).context.scope = scope) :
    l.filter (fun a => (f a).isElsewhere index) = if scope.id = index + 1 then [] else l := by
  split
  next hid => exact List.filter_eq_nil_iff.2 fun a ha => by simp [Request.isElsewhere, own a ha, hid]
  next hid => exact List.filter_eq_self.2 fun a ha => by simp [Request.isElsewhere, own a ha, hid]

/-- What a task of a valid scope delivers is what its body delivers. -/
theorem completions_turn_of_valid (hw : s.queue.waiting = task :: rest) {scope : Scope}
    (serves : task.scope? = some scope) (valid : s.suspensions.isValid scope = true) :
    (s.after .turn).completions = ((run task).run.run (s.taken rest)).2.completions := by
  have hledger := ledger_execute task (s.taken rest)
  rw [act_of_scope serves, show (s.taken rest).suspensions = s.suspensions from rfl, valid,
    if_pos rfl] at hledger
  rw [after_turn_of_cons hw]
  exact congrArg Ledger.completed hledger

/-- Elsewhere no sink panics. -/
theorem Apart.panic_eq_none (h : Apart index o s) {r : Request} (hr : r ∈ s.ledger.waiting)
    (elsewhere : r.context.scope.id ≠ index + 1) : r.sink.panic = none :=
  (h.sinks r hr).2 (bne_iff_ne.2 elsewhere)

/-- A flush elsewhere brings each request of its batch what is due to it: no sink stops it, and the helper finds what
it found at the outset. -/
theorem Apart.completions_flush {reply : List Value → HandlerReply} (h : Apart index o s)
    (awaits : Awaits index o due s) (answers : o.link.debuggee.AnswersBy reply)
    (numbered : o.link.debuggee.Numbered) {context : Context}
    (hw : s.queue.waiting = .flush context :: rest)
    (valid : s.suspensions.isValid context.scope = true)
    (elsewhere : context.scope.id ≠ index + 1) :
    (s.after .turn).completions = s.completions ++ s.next.filterMap (given due) := by
  have hobjects := objects_of_flush h.sound hw
  have hnext : s.next = (s.pending.find? context.scope.id).getD [] := next_of_cons hw
  have hrun := run_flush context (s.taken rest)
  rw [← show s.next = ((s.taken rest).takePending context.scope.id).1 from hnext] at hrun
  rw [completions_turn_of_valid hw rfl valid, run, hrun]
  cases hf : s.pending.find? context.scope.id with
  | none =>
    rw [hf] at hnext
    rw [show s.next = [] from hnext]
    exact (List.append_nil _).symm
  | some requests =>
    rw [hf, Option.getD_some] at hnext
    have hne := (h.sound.batch hf).1
    have hgathered := h.gathered fun hnone => by simp [Table.find?, hnone, Table.findEntry] at hf
    have hwaits : ∀ r ∈ requests, r ∈ s.ledger.waiting := fun r hr =>
      Ledger.mem_waiting.2 (.inl ⟨_, Table.mem_entries_of_find? hf, hr⟩)
    rw [hnext] at hobjects ⊢
    rw [if_neg (by simpa using hne)]
    have hdue := awaits.batch context.scope requests hf (fun r hr => (hobjects r hr).1) elsewhere
    refine completions_evaluateAll answers numbered (h.toGrounded.released hw) hgathered hobjects
      (fun r hr => ?_) hdue
    refine h.panic_eq_none (hwaits r hr) ?_
    rw [(hobjects r hr).1]
    exact elsewhere

/-- So does a task for a single request elsewhere. -/
theorem Apart.completions_individual (h : Apart index o s) (awaits : Awaits index o due s)
    {request : Request} (hw : s.queue.waiting = .individual request :: rest)
    (valid : s.suspensions.isValid request.context.scope = true)
    (elsewhere : request.context.scope.id ≠ index + 1) :
    (s.after .turn).completions = s.completions ++ s.next.filterMap (given due) := by
  have hnext : s.next = [request] := next_of_cons hw
  have hdue := awaits.single request (by rw [hw]; exact List.mem_cons_self)
    (bne_iff_ne.2 elsewhere)
  have hgiven : given due request = some (request.alone (s.taken rest).link.debuggee.displays) := by
    rw [given, hdue, show (s.taken rest).link = s.link from rfl, h.setup.displays]
    rfl
  have hledger := ledger_evaluateIndividually request (s.taken rest)
  rw [completions_turn_of_valid hw rfl valid, run, hnext, List.filterMap_cons_some hgiven]
  exact congrArg Ledger.completed hledger

variable {reply : List Value → HandlerReply}

/-- A turn settles the requests of its task. -/
theorem Apart.bestows_turn (h : Apart index o s) (awaits : Awaits index o due s)
    (answers : o.link.debuggee.AnswersBy reply) (numbered : o.link.debuggee.Numbered) :
    Bestows index due s.next s (s.after .turn) := by
  cases hw : s.queue.waiting with
  | nil =>
    have hnext : s.next = [] := by
      rw [next, hw]
      rfl
    rw [after_turn_of_nil hw, hnext]
    exact ⟨rfl, .refl _, [], by simp, by simp, rfl⟩
  | cons task rest =>
    have served := h.tasks task (by rw [hw]; exact List.mem_cons_self)
    obtain ⟨scope, hserves⟩ := Task.isCommand_eq_false_iff.1 served
    have houtlook : (s.after .turn).outlook = s.outlook := (h.onlyLink hw served).outlook
    -- only for another scope that is valid does it matter what the task does
    have hvalid : s.suspensions.isValid scope = true → scope.id ≠ index + 1 →
        (s.after .turn).completions = s.completions ++ s.next.filterMap (given due) := by
      intro hv helsewhere
      cases task with
      | flush context =>
        obtain rfl := Option.some.inj hserves
        exact h.completions_flush awaits answers numbered hw hv helsewhere
      | individual request =>
        obtain rfl := Option.some.inj hserves
        exact h.completions_individual awaits hw hv helsewhere
      | command command place => cases hserves
    have hc := carries_turn hw hserves
    generalize hl : (s.after .turn).ledger = l' at hc
    obtain ⟨takes, done, more, first, cancelled, -⟩ := hc
    rename_i l
    obtain ⟨-, hkept, -⟩ := takes.keeps
    have hcompletions : (s.after .turn).completions = s.completions ++ done :=
      (congrArg Ledger.completed hl).trans (congrArg (· ++ done) hkept)
    have hscopes := takes.scope_eq h.sound
    refine ⟨houtlook, ?_, done, hcompletions, fun p hp => ?_, ?_⟩
    · rw [hl]
      exact takes.waiting_perm h.sound
    · exact first.subset (List.mem_map_of_mem hp)
    · have hfirst : ∀ p ∈ done, p.1.context.scope = scope := fun p hp =>
        hscopes p.1 (first.subset (List.mem_map_of_mem hp))
      rw [filter_isElsewhere hfirst, filter_isElsewhere hscopes]
      by_cases hid : scope.id = index + 1
      · -- whatever was delivered, none of it was for another scope
        rw [if_pos hid, if_pos hid]
        rfl
      · rw [if_neg hid, if_neg hid]
        cases hv : s.suspensions.isValid scope with
        | false =>
          rw [cancelled hv, List.filterMap_eq_nil_iff.2 fun r hr => ?_]
          rw [bestowed, hscopes r hr, hv]
          rfl
        | true =>
          rw [List.append_cancel_left (hcompletions.symm.trans (hvalid hv hid))]
          refine List.filterMap_congr fun r hr => ?_
          rw [bestowed, hscopes r hr, hv, if_pos rfl]

/-- A turn leaves a session with one scope apart as long as no new requests wait after it. -/
theorem Apart.turn (h : Apart index o s) (waits : ∀ r ∈ (s.after .turn).ledger.waiting,
    r ∈ s.ledger.waiting) : Apart index o (s.after .turn) := by
  cases hw : s.queue.waiting with
  | nil => rwa [after_turn_of_nil hw]
  | cons task rest =>
    have served := h.tasks task (by rw [hw]; exact List.mem_cons_self)
    obtain ⟨link, hafter, -⟩ := h.onlyLink hw served
    have hconnection : (s.after .turn).connection = s.connection := by
      rw [hafter]
      rfl
    have hqueue : (s.after .turn).queue = { s.queue with waiting := rest } := by
      rw [hafter]
      rfl
    refine ⟨⟨?_, ?_, sound_turn h.sound, fun t ht => ?_⟩,
      h.toGrounded.turn h.toReady hconnection, fun r hr => h.sinks r (waits r hr)⟩
    · rw [hqueue]
      exact h.isOpen
    · rw [hqueue]
      exact h.hasSender
    · rw [hqueue] at ht
      exact h.tasks t (by rw [hw]; exact List.mem_cons_of_mem _ ht)

/-- What waits after a turn waited before it, with the same due to it. -/
theorem Awaits.turn (h : Apart index o s) (awaits : Awaits index o due s) :
    Awaits index o due (s.after .turn) := by
  cases hw : s.queue.waiting with
  | nil => rwa [after_turn_of_nil hw]
  | cons task rest =>
    have served := h.tasks task (by rw [hw]; exact List.mem_cons_self)
    obtain ⟨link, hafter, -⟩ := h.onlyLink hw served
    rw [hafter]
    refine ⟨fun r hr => awaits.single r ?_, fun scope requests hf => awaits.batch scope requests ?_⟩
    · rw [hw]
      exact List.mem_cons_of_mem _ hr
    · replace hf : (task.flushScope?.elim s.pending fun flushed =>
        s.pending.erase flushed.id).find? scope.id = some requests := hf
      cases hs : task.flushScope? with
      | none =>
        rw [hs] at hf
        exact hf
      | some flushed =>
        rw [hs, Option.elim_some] at hf
        by_cases hid : scope.id = flushed.id
        · rw [hid, Table.find?_erase_self] at hf
          cases hf
        · rwa [Table.find?_erase_of_ne _ hid] at hf

/-! ## Runs of the queue -/

variable {s' : Session} {settled : List Request}

theorem Bestows.refl (s : Session) : Bestows index due [] s s := ⟨rfl, .refl _, [], by simp, by simp, rfl⟩

/-- What is settled first and what is settled then make up what is settled in all. -/
theorem Bestows.trans {s'' : Session} {settled' : List Request}
    (h : Bestows index due settled s s') (h' : Bestows index due settled' s' s'') :
    Bestows index due (settled ++ settled') s s'' := by
  obtain ⟨done, hdone, hmem, hfilter⟩ := h.completions
  obtain ⟨done', hdone', hmem', hfilter'⟩ := h'.completions
  have hbestowed : s'.bestowed due = s.bestowed due := by
    unfold bestowed
    rw [show s'.suspensions = s.suspensions from congrArg Outlook.suspensions h.outlook]
  refine ⟨h'.outlook.trans h.outlook, ?_, done ++ done', ?_, fun p hp => ?_, ?_⟩
  · rw [List.append_assoc]
    exact h.waiting.trans (h'.waiting.append_left settled)
  · rw [hdone', hdone, List.append_assoc]
  · rcases List.mem_append.1 hp with hp | hp
    · exact List.mem_append_left _ (hmem p hp)
    · exact List.mem_append_right _ (hmem' p hp)
  · rw [List.filter_append, List.filter_append, List.filterMap_append, hfilter, hfilter', hbestowed]

/-- So every number of turns settles some of the requests that wait, and leaves the session as it has to be for more.
-/
theorem Apart.bestows_turns (n : Nat) (h : Apart index o s) (awaits : Awaits index o due s)
    (answers : o.link.debuggee.AnswersBy reply) (numbered : o.link.debuggee.Numbered) :
    Apart index o (s.play (List.replicate n .turn)) ∧
      ∃ settled, Bestows index due settled s (s.play (List.replicate n .turn)) := by
  induction n generalizing s with
  | zero => exact ⟨h, [], .refl s⟩
  | succ n ih =>
    have hfirst := h.bestows_turn awaits answers numbered
    have hnext := h.turn fun r hr => hfirst.waiting.symm.subset (List.mem_append_right _ hr)
    obtain ⟨hlast, settled, hrest⟩ := ih hnext (awaits.turn h)
    exact ⟨hlast, _, hfirst.trans hrest⟩

/-- A run of the queue settles all of them. -/
theorem Apart.bestows_runPending (h : Apart index o s) (awaits : Awaits index o due s)
    (answers : o.link.debuggee.AnswersBy reply) (numbered : o.link.debuggee.Numbered) :
    Apart index o s.runPending.2 ∧ s.runPending.2.ledger.waiting = [] ∧
      ∃ settled, s.ledger.waiting.Perm settled ∧ Bestows index due settled s s.runPending.2 := by
  have hplay : s.runPending.2 = s.play (List.replicate s.runPending.1 .turn) :=
    drain_eq_play s.work s
  obtain ⟨hlast, settled, hbestows⟩ := h.bestows_turns s.runPending.1 awaits answers numbered
  rw [← hplay] at hlast hbestows
  have hnone := waiting_eq_nil hlast.sound hlast.isOpen (waiting_runPending s)
  have hperm := hbestows.waiting
  rw [hnone, List.append_nil] at hperm
  exact ⟨hlast, hnone, settled, hperm, hbestows⟩

/-! ## Windows -/

/-- Whether each batch that waits for another scope than the one at a position is what a window makes of its
scope, if that has a thread. -/
def Aligned (index : Nat) (o : Session) (window : List Request) (s : Session) : Prop :=
  ∀ scope requests, s.pending.find? scope.id = some requests →
    (∀ r ∈ requests, r.context.scope = scope) → scope.id ≠ index + 1 → scope.thread.isSome →
      requests = o.groupOf window scope

/-- Whether the requests that wait for other scopes than the one at a position are those of a window, with
each batch in the order of the window. -/
structure Windowed (index : Nat) (o : Session) (window : List Request) (s : Session) : Prop where
  isWindow : s.outlook.IsWindow index window
  waiting : (s.ledger.waiting.filter (·.isElsewhere index)).Perm window
  aligned : Aligned index o window s

variable {window : List Request}

/-- What a window rules is what its requests come to in the tasks that they wait for. -/
theorem Windowed.awaits (w : Windowed index o window s) (h : Apart index o s) :
    Awaits index o (o.ruling window) s where
  single := by
    intro r hr _
    rw [ruling, if_neg (by simp [h.single r hr])]
  batch := by
    intro scope requests hf hscope hid
    cases ht : scope.thread with
    | none =>
      -- such a batch may wait, but its requests are settled one by one
      rw [batchVerdicts_of_threadless ht, List.map_map]
      refine List.map_congr_left fun r hr => ?_
      have hungrouped : o.groupable r = false := by simp [groupable, hscope r hr, ht]
      rw [ruling, if_neg (by simp [hungrouped]), hscope r hr]
      rfl
    | some thread =>
      rw [w.aligned scope requests hf hscope hid (by rw [ht]; rfl)]
      exact map_ruling_groupOf w.isWindow.serials scope

/-- A request of a window that is to be gathered waits in the batch of its scope. -/
theorem Windowed.pending_isSome (w : Windowed index o window s) (h : Apart index o s) {r : Request}
    (hr : r ∈ window) (groupable : o.groupable r = true) :
    (s.pending.find? r.context.scope.id).isSome := by
  have hwaits : r ∈ s.ledger.waiting := (List.mem_filter.1 (w.waiting.symm.subset hr)).1
  rcases Ledger.mem_waiting.1 hwaits with ⟨e, he, hmem⟩ | hsingle
  · rw [Table.find?_isSome_iff, ((h.sound.batches e he).2 r hmem).1]
    exact List.mem_map_of_mem he
  · obtain ⟨task, htask, hr⟩ := List.mem_filterMap.1 hsingle
    cases task with
    | individual request =>
      obtain rfl := Option.some.inj hr
      rw [h.single request htask] at groupable
      cases groupable
    | flush context => cases hr
    | command command scope => cases hr

/-- What a window makes of a scope is the batch that waits for it, or nothing if none does. -/
theorem Windowed.groupOf_eq (w : Windowed index o window s) (h : Apart index o s) {scope : Scope}
    (own : ∀ r ∈ (s.pending.find? scope.id).getD [], r.context.scope = scope)
    (elsewhere : scope.id ≠ index + 1) (thread : scope.thread.isSome) :
    o.groupOf window scope = (s.pending.find? scope.id).getD [] := by
  cases hb : s.pending.find? scope.id with
  | some batch =>
    rw [hb] at own
    exact (w.aligned scope batch hb own elsewhere thread).symm
  | none =>
    refine List.filter_eq_nil_iff.2 fun r hr hgroup => ?_
    simp only [Bool.and_eq_true, decide_eq_true_eq] at hgroup
    have hsome := w.pending_isSome h hr hgroup.1
    rw [hgroup.2, hb] at hsome
    cases hsome

/-- A request that is not of the batch of a scope leaves that batch as it is. -/
theorem groupOf_append_of_not {request : Request} {scope : Scope}
    (h : o.groupable request = false ∨ request.context.scope ≠ scope) :
    o.groupOf (window ++ [request].filter (·.isElsewhere index)) scope = o.groupOf window scope := by
  have hnot : (o.groupable request && request.context.scope = scope) = false := by
    rcases h with h | h <;> simp [h]
  rw [groupOf, List.filter_append, List.filter_filter, List.filter_cons_of_neg (by simp [hnot]),
    List.filter_nil, List.append_nil, groupOf]

/-- A request that joins the batch of its scope comes in at the end of the window. -/
theorem Windowed.aligned_submit (w : Windowed index o window s) (h : Apart index o s)
    {request : Request} (own : request.context.connection = s.connection) :
    Aligned index o (window ++ [request].filter (·.isElsewhere index)) (s.submit request) := by
  intro scope requests hf hscope elsewhere thread
  have hlands := h.toGrounded.lands h.hasSender own
  generalize s.submit request = s' at hlands hf
  cases hlands with
  | single grounded ungrouped queue pending =>
    rw [pending_invoke, pending] at hf
    rw [groupOf_append_of_not (.inl ungrouped)]
    exact w.aligned scope requests hf hscope elsewhere thread
  | batch grounded gathered object queue pending =>
    rw [pending_join, pending] at hf
    by_cases hid : scope.id = request.context.scope.id
    · -- the request is the last one of the batch, as it is of the window
      rw [hid, Table.find?_put_self] at hf
      obtain rfl := Option.some.inj hf
      have hrequest : request.context.scope = scope :=
        hscope request (List.mem_append_right _ (List.mem_singleton.2 rfl))
      rw [hrequest] at hscope ⊢
      have hgroup : o.groupOf window scope = (s.pending.find? scope.id).getD [] :=
        w.groupOf_eq h (fun r hr => hscope r (List.mem_append_left _ hr)) elsewhere thread
      have hgroupable : o.groupable request = true := by
        simp [groupable, gathered.1, object, hrequest, thread]
      have hnew : [request].filter (·.isElsewhere index) = [request] :=
        List.filter_cons_of_pos (by simp [Request.isElsewhere, hrequest, elsewhere])
      rw [hnew, groupOf, List.filter_append, ← groupOf, hgroup,
        List.filter_cons_of_pos (by simp [hgroupable, hrequest]), List.filter_nil]
    · rw [Table.find?_put_of_ne _ _ hid] at hf
      rw [groupOf_append_of_not (.inr fun hrequest => hid (by rw [hrequest]))]
      exact w.aligned scope requests hf hscope elsewhere thread

/-! ## Steps -/

/-- Scopes are numbered from one. -/
theorem id_of_scope (h : s.ledger.Sound) {i : Nat} {scope : Scope}
    (hs : s.suspensions.scopes[i]? = some scope) : scope.id = i + 1 := by
  have hid := congrArg (·[i]?) h.scope_ids
  have hlength : i < s.ledger.scopes.length := (List.getElem?_eq_some_iff.1 hs).1
  rw [List.getElem?_map, show s.ledger.scopes[i]? = some scope from hs,
    List.getElem?_range' hlength] at hid
  have heq : scope.id = 1 + 1 * i := Option.some.inj hid
  rw [heq, Nat.one_mul, Nat.add_comm]

/-- How many requests were made has no part in this. -/
theorem Apart.made (h : Apart index o s) (n : Nat) : Apart index o { s with made := n } :=
  ⟨h.toReady.made n, h.toGrounded.alter s.suspensions _ _ n, h.sinks⟩

/-- A step that keeps one scope apart submits requests with sinks as they have to be. -/
theorem Apart.sinks_submitted (h : Apart index o s) {step : Step} (apart : step.isApart index = true)
    {r : Request} (hr : r ∈ s.outlook.submitted step) :
    r.sink.isMild = true ∧ (r.isElsewhere index = true → r.sink.panic = none) := by
  have hrequest : ∀ submission : Submission, submission.isApart index = true →
      r ∈ (s.outlook.requestOf submission).toList →
        r.sink.isMild = true ∧ (r.isElsewhere index = true → r.sink.panic = none) := by
    intro submission hsubmission hr
    simp only [Submission.isApart, Bool.and_eq_true, Bool.or_eq_true, beq_iff_eq, Option.isNone_iff_eq_none]
      at hsubmission
    rw [Option.mem_toList, Outlook.requestOf, Option.map_eq_some_iff] at hr
    obtain ⟨scope, hscope, rfl⟩ := hr
    refine ⟨hsubmission.1.2, fun helsewhere => hsubmission.2.resolve_left fun hplace => ?_⟩
    have hid := id_of_scope h.sound hscope
    rw [hplace] at hid
    simp [Request.isElsewhere, hid] at helsewhere
  cases step with
  | submit submission => exact hrequest submission apart hr
  | submitRequest submission => exact hrequest submission apart hr
  | _ => cases hr

/-- Such a step leaves the session with that scope apart. -/
theorem Apart.step (h : Apart index o s) {step : Step} (apart : step.isApart index = true) :
    Apart index o (s.after (.step step)) := by
  have hp := prepares_step h.toReady (Step.isPreparation_of_isApart apart)
  have hgrounded : Grounded o (s.after (.step step)) := by
    cases step with
    | attach => exact h.toGrounded.alter s.suspensions.attach _ _ _
    | suspend attachment thread =>
      exact h.toGrounded.alter (s.suspensions.suspend attachment thread) _ _ _
    | invalidate other =>
      show Grounded o (s.invalidateAt other)
      rw [invalidateAt_eq]
      exact h.toGrounded.alter _ _ _ _
    | submit submission =>
      exact h.toGrounded.withRequest h.toReady (Submission.connection_of_isApart apart)
    | submitRequest submission =>
      exact h.toGrounded.withRequest h.toReady (Submission.connection_of_isApart apart)
    | _ => cases apart
  refine ⟨hp.ready (sound_after _ h.sound) h.toReady, hgrounded, fun r hr => ?_⟩
  rcases List.mem_append.1 (hp.waiting.subset hr) with hr | hr
  · exact h.sinks r hr
  · exact h.sinks_submitted apart hr

/-- The requests that it submits elsewhere come last in the window. -/
theorem Windowed.step (w : Windowed index o window s) (h : Apart index o s) {step : Step}
    (apart : step.isApart index = true) :
    Windowed index o (window ++ (s.outlook.submitted step).filter (·.isElsewhere index))
      (s.after (.step step)) := by
  have hp := prepares_step h.toReady (Step.isPreparation_of_isApart apart)
  have hsubmission : ∀ submission : Submission, submission.isApart index = true →
      Aligned index o
        (window ++ (s.outlook.requestOf submission).toList.filter (·.isElsewhere index))
        ((withRequest submission fun request => changing (·.submit request)).run.run s).2 := by
    intro submission hsubmission
    rw [run_withRequest, makeRequest_eq]
    cases hr : s.outlook.requestOf submission with
    | none =>
      simp only [Option.toList_none, List.filter_nil, List.append_nil]
      exact w.aligned
    | some request =>
      have hmade : Windowed index o window { s with made := s.made + 1 } :=
        ⟨⟨w.isWindow.serials, fun r hr => Nat.lt_succ_of_lt (w.isWindow.made r hr),
          w.isWindow.elsewhere⟩, w.waiting, w.aligned⟩
      have hown : request.context.connection = s.connection :=
        connection_of_requestOf hr (Submission.connection_of_isApart hsubmission)
      exact hmade.aligned_submit (h.made _) hown
  -- all other steps submit nothing and leave the batches
  have hkept : s.outlook.submitted step = [] → (s.after (.step step)).pending = s.pending →
      Aligned index o (window ++ (s.outlook.submitted step).filter (·.isElsewhere index))
        (s.after (.step step)) := by
    intro hnone hpending
    rw [hnone, Aligned, hpending, List.filter_nil, List.append_nil]
    exact w.aligned
  refine ⟨?_, ?_, ?_⟩
  · rw [hp.outlook]
    exact w.isWindow.after step
  · have hwaiting := hp.waiting.filter (·.isElsewhere index)
    rw [List.filter_append] at hwaiting
    exact hwaiting.trans (w.waiting.append_right _)
  · cases step with
    | submit submission => exact hsubmission submission apart
    | submitRequest submission => exact hsubmission submission apart
    | attach => exact hkept rfl rfl
    | suspend attachment thread => exact hkept rfl rfl
    | invalidate other =>
      have hpending : (s.invalidateAt other).pending = s.pending := by rw [invalidateAt_eq]
      exact hkept rfl hpending
    | _ => cases apart

end Session

end BatchStringify
