import BatchStringify.Proofs.TurnCalls
import Mathlib.Data.List.Induction

/-!
# Runs without batches

If every question to the probe is answered with no, no request ever joins a batch: each submission sends one
task, which evaluates its request alone, and nothing else is sent but commands of the embedder
(`sendsAlone_play`). So there is nothing to flush.
-/

namespace BatchStringify.Session

/-- The tasks that were ever sent to serve requests, the first one first. -/
def sentToServe (s : Session) : List Task := s.queue.sent.filter fun task => !task.isCommand

/-- Whether each request that was accepted between two sessions was sent with a task of its own, and none
joined a batch. -/
structure SendsAlone (s s' : Session) : Prop where
  pending : s'.pending = s.pending
  requests : ∃ more, s'.accepted = s.accepted ++ more ∧
    s'.sentToServe = s.sentToServe ++ more.map .individual

instance : Std.Refl SendsAlone := ⟨fun s => ⟨rfl, [], by simp, by simp⟩⟩

instance : IsTrans Session SendsAlone where
  trans := by
    intro s s' s'' h h'
    obtain ⟨more, haccepted, hsent⟩ := h.requests
    obtain ⟨more', haccepted', hsent'⟩ := h'.requests
    refine ⟨h'.pending.trans h.pending, more ++ more', ?_, ?_⟩
    · rw [haccepted', haccepted, List.append_assoc]
    · rw [hsent', hsent, List.map_append, List.append_assoc]

variable {s s' : Session}

/-- What accepts and sends nothing sends nothing but tasks of single requests. -/
theorem SendsAlone.of_eq (pending : s'.pending = s.pending) (accepted : s'.accepted = s.accepted)
    (sent : s'.queue.sent = s.queue.sent) : SendsAlone s s' := by
  refine ⟨pending, [], by rw [accepted, List.append_nil], ?_⟩
  rw [sentToServe, sent, List.map_nil, List.append_nil]
  rfl

/-! ## Pieces -/

theorem sendsAlone_record {entry : Entry} (h : entry.accepted? = none) (s : Session) :
    SendsAlone s (s.record entry) := by
  refine .of_eq rfl ?_ rfl
  simp [accepted, record, withLink, Link.record, h]

theorem sendsAlone_note (s : Session) (notice : Logging.Notice) : SendsAlone s (s.note notice) := by
  have hnone : (Entry.notice notice).accepted? = none := rfl
  exact sendsAlone_record hnone s

/-- Calls and notices send nothing. -/
theorem sendsAlone_withLink {kind : Call → Prop} {link : Link} (h : s.link.Grows kind link) :
    SendsAlone s (s.withLink link) :=
  .of_eq rfl (congrArg Ledger.accepted (s.ledger_withLink h)) rfl

/-- Looking for the helper sends nothing. -/
theorem sendsAlone_askProbe (s : Session) (context : Context) :
    SendsAlone s (s.askProbe context).2 := by
  obtain ⟨probe, link, hask, hg, -, -⟩ := s.exists_askProbe context
  rw [hask]
  exact .of_eq rfl (congrArg Ledger.accepted (s.ledger_withLink hg)) rfl

/-- A task that is sent is counted, also if the receiving end is gone. -/
theorem sentToServe_invoke (s : Session) (task : Task) :
    (s.invoke task).sentToServe = s.sentToServe ++ if task.isCommand then [] else [task] := by
  have hsent : (s.invoke task).queue.sent = s.queue.sent ++ [task] := by
    unfold invoke
    dsimp only
    split <;> rfl
  rw [sentToServe, hsent, List.filter_append]
  cases h : task.isCommand <;> simp [sentToServe, h]

/-- A command is no task that serves requests. -/
theorem sendsAlone_offer (s : Session) (command : Command) : SendsAlone s (s.offer command) := by
  have hreacts := s.reacts_offer command
  refine ⟨hreacts.pending, [], by rw [hreacts.accepted, List.append_nil], ?_⟩
  unfold offer
  split
  · exact sentToServe_invoke s _
  · exact (List.append_nil _).symm

/-- Completing a request accepts none and sends only commands. -/
theorem sendsAlone_complete (request : Request) (completion : Completion) :
    Along SendsAlone (complete request completion) := by
  refine along_complete (fun s => ?_) sendsAlone_offer
  have hnone : (Entry.completed request completion).accepted? = none := rfl
  have hrecord := sendsAlone_record hnone s
  exact ⟨hrecord.pending, hrecord.requests⟩

/-- A request that is accepted is sent with a task of its own, if the probe answers with no. -/
theorem sendsAlone_submit {request : Request}
    (unavailable : s.queue.hasSender = true → request.value.objectId?.isSome = true →
      (s.askProbe request.context).1 = false) : SendsAlone s (s.submit request) := by
  have haccepted : (s.record (.accepted request)).accepted = s.accepted ++ [request] :=
    congrArg Ledger.accepted (s.ledger_record_accepted request)
  have halone : ∀ t : Session, t.pending = s.pending → t.accepted = s.accepted ++ [request] →
      t.sentToServe = s.sentToServe → SendsAlone s (t.invoke (.individual request)) := by
    intro t hpending ht hsent
    have hledger := t.ledger_invoke (.individual request)
    refine ⟨(congrArg Ledger.pending hledger).trans hpending, [request],
      (congrArg Ledger.accepted hledger).trans ht, ?_⟩
    rw [sentToServe_invoke, hsent]
    rfl
  by_cases hs : s.queue.hasSender = true
  · rw [submit_of_hasSender hs]
    rcases (s.record (.accepted request)).accept_cases request with
      ⟨t, rfl | rfl, ht⟩ | ⟨hobject, hask, -⟩
    · rw [ht]
      exact halone _ rfl haccepted rfl
    · obtain ⟨probe, link, hask, hg, -, -⟩ :=
        (s.record (.accepted request)).exists_askProbe request.context
      rw [ht, hask]
      refine halone _ rfl (Eq.trans ?_ haccepted) rfl
      exact congrArg Ledger.accepted (ledger_withLink _ hg)
    · rw [askProbe_record, unavailable hs hobject] at hask
      cases hask
  · rw [submit, if_neg hs]
    exact sendsAlone_note s _

/-! ## Steps -/

/-- Whether a step asks the probe nothing, or is told that batches are not available. -/
def Refused (s : Session) (step : Step) : Prop :=
  ∀ context, s.query? step = some context → (s.askProbe context).1 = false

/-- With batches turned off every question is answered with no. -/
theorem refused_of_off (h : s.settings.batchEvaluation = false) (step : Step) : Refused s step := by
  intro context _
  rw [askProbe, if_neg (Bool.eq_false_iff.1 h)]

/-- A submission whose question is answered with no sends its request alone. -/
theorem sendsAlone_submission {submission : Submission}
    (refused : ∀ context, s.contextAt? submission.place = some context →
      s.queue.hasSender = true → submission.value.objectId?.isSome = true →
        (s.askProbe context).1 = false) :
    SendsAlone s ((withRequest submission fun request =>
      changing (·.submit request)).run.run s).2 := by
  rw [run_withRequest]
  unfold makeRequest
  cases hc : s.contextAt? submission.place with
  | none => exact Std.Refl.refl s
  | some context =>
    have hmade : SendsAlone s { s with made := s.made + 1 } := .of_eq rfl rfl rfl
    refine IsTrans.trans _ _ _ hmade (sendsAlone_submit fun hs ho => ?_)
    have hsame : (askProbe { s with made := s.made + 1 } context).1 = (s.askProbe context).1 := by
      unfold askProbe
      split <;> rfl
    exact hsame.trans (refused context hc hs ho)

/-- So does every step of the library's own if its question is answered with no. -/
theorem sendsAlone_perform {step : Step} (own : step.isByEmbedder = false)
    (refused : Refused s step) : SendsAlone s (s.after (.step step)) := by
  have hsubmission : ∀ submission : Submission,
      (s.query? step = if s.queue.hasSender && submission.value.objectId?.isSome
        then s.contextAt? submission.place else none) →
      SendsAlone s ((withRequest submission fun request =>
        changing (·.submit request)).run.run s).2 := by
    refine fun submission hquery => sendsAlone_submission fun context hc hs ho => refused context ?_
    rw [hquery, hs, ho]
    exact hc
  cases step with
  | submit submission => exact hsubmission submission rfl
  | submitRequest submission => exact hsubmission submission rfl
  | available place =>
    exact along_withContext place (fun context s => sendsAlone_askProbe s context) s
  | invalidate index =>
    show SendsAlone s (s.invalidateAt index)
    rw [invalidateAt_eq]
    exact .of_eq rfl rfl rfl
  | processDetached =>
    have hnote := sendsAlone_note s .debuggeeDetached
    exact ⟨hnote.pending, hnote.requests⟩
  | invoke command => exact sendsAlone_offer s command
  | request submission ending =>
    refine along_withRequest (fun _ => .of_eq rfl rfl rfl) submission (fun request => ?_) s
    refine along_finish (sendsAlone_complete request) ?_
    rintro rfl
    cases own
  | call call => cases own
  | evaluateBatch place helper values => cases own
  | probe place => cases own
  | _ => exact .of_eq rfl rfl rfl

theorem sendsAlone_emit (s : Session) (report : Report) : SendsAlone s (s.emit report) := by
  have hnone : (Entry.report report).accepted? = none := rfl
  exact sendsAlone_record hnone s

theorem sendsAlone_stepped {step : Step} (own : step.isByEmbedder = false)
    (refused : Refused s step) (command : String) : SendsAlone s (s.stepped command step) :=
  along_stepped (sendsAlone_perform own refused) fun t _ => sendsAlone_emit t _

/-! ## Events -/

/-- Whatever goes along each step of a command leads to each session in which it takes one. -/
theorem along_stepsIn {R : Session → Session → Prop} [Std.Refl R] [IsTrans Session R]
    {command : String} {steps : List Step}
    (h : ∀ p ∈ stepsIn command steps s, R p.1 (p.1.stepped command p.2)) :
    ∀ p ∈ stepsIn command steps s, R s p.1 := by
  induction steps generalizing s with
  | nil => exact fun p hp => by cases hp
  | cons step rest ih =>
    intro p hp
    have hfirst := h (s, step) List.mem_cons_self
    simp only [stepped] at hfirst
    simp only [stepsIn] at h hp
    rcases List.mem_cons.1 hp with rfl | hp
    · exact Std.Refl.refl s
    · rcases hr : (perform step).run.run s with ⟨payload | result, s'⟩
      · rw [hr] at hp
        cases hp
      · rw [hr] at hfirst hp h
        exact IsTrans.trans _ _ _ hfirst
          (ih (fun q hq => h q (List.mem_cons_of_mem _ hq)) p hp)

/-- In an event that neither flushes nor is answered with yes, requests are sent alone: up to each of its steps
and to its end. -/
theorem sendsAlone_after {event : Event} (unflushed : ∀ task ∈ s.queue.waiting, task.flushScope? = none)
    (h : ∀ p ∈ s.stepsAt event, p.2.isByEmbedder = false ∧ Refused p.1 p.2) :
    SendsAlone s (s.after event) ∧ ∀ p ∈ s.stepsAt event, SendsAlone s p.1 := by
  cases event with
  | step step =>
    obtain ⟨own, refused⟩ := h (s, step) (List.mem_singleton.2 rfl)
    refine ⟨sendsAlone_perform own refused, fun p hp => ?_⟩
    rw [List.mem_singleton.1 hp]
    exact Std.Refl.refl s
  | turn =>
    cases hw : s.queue.waiting with
    | nil =>
      rw [after_turn_of_nil hw]
      exact ⟨Std.Refl.refl s, fun p hp => by simp [stepsAt, hw] at hp⟩
    | cons task rest =>
      have htaken : SendsAlone s (s.taken rest) := .of_eq rfl rfl rfl
      cases task with
      | flush context =>
        have hnone := unflushed (.flush context) (by rw [hw]; exact List.mem_cons_self)
        cases hnone
      | individual request =>
        have hturn : SendsAlone (s.released (.individual request) rest) (s.after .turn) :=
          along_turn sendsAlone_withLink (fun _ => sendsAlone_withLink)
            (fun r _ => sendsAlone_complete r) sendsAlone_note hw rfl
        exact ⟨IsTrans.trans _ _ _ htaken hturn, fun p hp => by simp [stepsAt, hw, stepsOf] at hp⟩
      | command command scope =>
        have hsteps : ∀ p ∈ s.stepsAt .turn, ∀ name, SendsAlone p.1 (p.1.stepped name p.2) :=
          fun p hp name => sendsAlone_stepped (h p hp).1 (h p hp).2 name
        have hbegun : SendsAlone (s.taken rest) ((s.taken rest).begun (.command command scope)) := by
          unfold begun
          cases Task.start? _ _ with
          | none => exact Std.Refl.refl _
          | some start => exact sendsAlone_emit _ _
        have hbefore := IsTrans.trans _ _ _ htaken hbegun
        refine ⟨IsTrans.trans _ _ _ hbefore (along_begun hw (fun t _ _ => sendsAlone_note t _) hsteps),
          fun p hp => ?_⟩
        obtain ⟨steps, heq, -⟩ := after_turn_of_command hw
        rw [heq] at hsteps hp
        exact IsTrans.trans _ _ _ hbefore
          (along_stepsIn (fun q hq => hsteps q hq command.name) p hp)
  | dropSender =>
    refine ⟨?_, fun p hp => by cases hp⟩
    simp only [after, dropOwnSender]
    split <;> exact .of_eq rfl rfl rfl
  | dropQueue => exact ⟨.of_eq rfl rfl rfl, fun p hp => by cases hp⟩

/-! ## Runs -/

/-- The steps of a run go on with those of what follows. -/
theorem steps_append (s : Session) (first second : List Event) :
    s.steps (first ++ second) = s.steps first ++ (s.play first).steps second := by
  induction first generalizing s with
  | nil => rfl
  | cons event rest ih =>
    rw [List.cons_append, steps, ih, steps, List.append_assoc]
    rfl

variable (debuggee : Debuggee) (settings : DebuggerSettings) (connection : Connection)

/-- What waits was sent, and all that was sent was counted. -/
theorem sent_play (events : List Event) :
    let s := (start debuggee settings connection).play events
    s.queue.waiting ⊆ s.queue.sent ∧ s.queue.enqueued = s.queue.sent.length := by
  intro s
  have hconserves : Conserves (start debuggee settings connection) s _ _ :=
    conserves_play events fun _ => rfl
  obtain ⟨more, hsent, hcount, hsplit⟩ := hconserves.sent
  have hmore : s.queue.sent = more := hsent
  refine ⟨fun task hw => ?_, ?_⟩
  · rw [hmore, show more = _ from hsplit]
    exact List.mem_append_left _ (List.mem_append_right _ hw)
  · rw [hcount, hmore]
    exact Nat.zero_add _

variable {debuggee settings connection} {events : List Event}

/-- Where requests are sent alone, no flush waits. -/
theorem SendsAlone.unflushed
    (h : SendsAlone (start debuggee settings connection)
      ((start debuggee settings connection).play events)) :
    ∀ task ∈ ((start debuggee settings connection).play events).queue.waiting,
      task.flushScope? = none := by
  intro task hw
  cases task with
  | flush context =>
    obtain ⟨more, -, hsent⟩ := h.requests
    have hserve : Task.flush context ∈
        ((start debuggee settings connection).play events).sentToServe :=
      List.mem_filter.2 ⟨(sent_play debuggee settings connection events).1 hw, rfl⟩
    rw [hsent] at hserve
    simp [start, sentToServe] at hserve
  | _ => rfl

/-- In a run in which every question is answered with no, requests are sent alone. -/
theorem sendsAlone_play
    (h : ∀ p ∈ (start debuggee settings connection).steps events,
      p.2.isByEmbedder = false ∧ Refused p.1 p.2) :
    let s₀ := start debuggee settings connection
    SendsAlone s₀ (s₀.play events) ∧ ∀ p ∈ s₀.steps events, SendsAlone s₀ p.1 := by
  intro s₀
  induction events using List.reverseRecOn with
  | nil => exact ⟨Std.Refl.refl s₀, fun p hp => by cases hp⟩
  | append_singleton events event ih =>
    have hsteps := s₀.steps_append events [event]
    have hone : (s₀.play events).steps [event] = (s₀.play events).stepsAt event :=
      List.append_nil _
    rw [hone] at hsteps
    rw [hsteps] at h ⊢
    obtain ⟨hplay, hall⟩ := ih fun p hp => h p (List.mem_append_left _ hp)
    obtain ⟨hafter, hhere⟩ := sendsAlone_after hplay.unflushed
      fun p hp => h p (List.mem_append_right _ hp)
    rw [play_append]
    refine ⟨IsTrans.trans _ _ _ hplay hafter, fun p hp => ?_⟩
    rcases List.mem_append.1 hp with hp | hp
    · exact hall p hp
    · exact IsTrans.trans _ _ _ hplay (hhere p hp)

/-- A call that only batches need was made by a flush. -/
theorem flushed_of_batchCall {s : Session} {x : Call × Outcome}
    (own : ∀ p ∈ s.steps events, p.2.isByEmbedder = false) (h : x ∈ (s.play events).exchanges)
    (batch : x.1.isBatchCall = true) :
    x ∈ s.exchanges ∨ ∃ before after context rest, events = before ++ .turn :: after ∧
      (s.play before).queue.waiting = .flush context :: rest := by
  induction events generalizing s with
  | nil => exact .inl h
  | cons event events ih =>
    rcases ih (s := s.after event) (fun p hp => own p (List.mem_append_right _ hp)) h with
      hx | ⟨before, after, context, rest, rfl, hw⟩
    · rw [(makes_after event).since.1] at hx
      rcases List.mem_append.1 hx with hx | hx
      · exact .inl hx
      · obtain ⟨rfl, context, rest, hw, -⟩ :=
          flush_of_batchCall (fun p hp => own p (List.mem_append_left _ hp)) hx batch
        exact .inr ⟨[], events, context, rest, rfl, hw⟩
    · exact .inr ⟨event :: before, after, context, rest, rfl, hw⟩

/-- In a run in which every question is answered with no: each accepted request was sent with one task of its
own, and besides only commands were sent; no batch waits, neither at its end nor before any of its steps; and no
call was made that only batches need. -/
theorem unbatched_play
    (h : ∀ p ∈ (start debuggee settings connection).steps events,
      p.2.isByEmbedder = false ∧ Refused p.1 p.2) :
    let s₀ := start debuggee settings connection
    let s := s₀.play events
    s.sentToServe = s.accepted.map .individual ∧
    s.queue.enqueued = s.accepted.length + (s.queue.sent.filter Task.isCommand).length ∧
    s.pending = .empty ∧ (∀ p ∈ s₀.steps events, p.1.pending = .empty) ∧
    ∀ x ∈ s.exchanges, x.1.isBatchCall = false := by
  intro s₀ s
  obtain ⟨hplay, hall⟩ := sendsAlone_play h
  have hsent : s.sentToServe = s.accepted.map .individual := by
    obtain ⟨more, haccepted, hserve⟩ := hplay.requests
    rw [show s.accepted = more from haccepted]
    exact hserve
  refine ⟨hsent, ?_, hplay.pending, fun p hp => (hall p hp).pending, fun x hx => ?_⟩
  · have hlength := congrArg List.length hsent
    rw [List.length_map, sentToServe] at hlength
    rw [(sent_play debuggee settings connection events).2, ← hlength, Nat.add_comm]
    exact List.length_eq_length_filter_add Task.isCommand
  · rw [← Bool.not_eq_true]
    intro hbatch
    rcases flushed_of_batchCall (fun p hp => (h p hp).1) hx hbatch with
      hx | ⟨before, after, context, rest, rfl, hw⟩
    · cases hx
    · rw [steps_append] at h
      have hbefore := (sendsAlone_play fun p hp => h p (List.mem_append_left _ hp)).1.unflushed
        (.flush context) (by rw [hw]; exact List.mem_cons_self)
      cases hbefore

end BatchStringify.Session
