import BatchStringify.Proofs.Calm.Turns

/-!
# Plain steps of a calm session

The steps that an embedder takes between two runs of the queue: stops and their ends, submissions
with plain sinks, and changes of what the debuggee answers. Such a step keeps a session calm. What
it does to the outlook, and which requests it submits, depends on the outlook alone, so it is the
same whether or not values are evaluated in batches.
-/

namespace BatchStringify

/-- Whether a step only prepares for a run of the queue. -/
def Step.isPlain : Step → Bool
  | .attach | .suspend _ _ | .invalidate _ | .detach _ | .available _ | .processDetached
  | .defineClass _ | .defineMethod _ _ _ | .setDisplay _ _ | .fail _ _ | .failRelease _
  | .setHandler _ => true
  | .submit submission | .submitRequest submission => submission.sink.isPlain
  | _ => false

/-- Whether a step is plain but for the sinks of its requests. -/
def Step.isPreparation : Step → Bool
  | .submit _ | .submitRequest _ => true
  | step => step.isPlain

theorem Step.isPreparation_of_isPlain {step : Step} (h : step.isPlain = true) :
    step.isPreparation = true := by
  cases step with
  | submit submission => rfl
  | submitRequest submission => rfl
  | _ => exact h

namespace Outlook

variable (o : Outlook)

/-- The request that a submission makes, if its scope exists. -/
def requestOf (submission : Submission) : Option Request :=
  o.suspensions.scopes[submission.place.scope]?.map fun scope =>
    ⟨o.made, submission.label, submission.value,
      ⟨scope, submission.place.loader, submission.place.connection.getD o.connection⟩,
      submission.sink⟩

/-- The requests that a preparing step submits. -/
def submitted : Step → List Request
  | .submit submission | .submitRequest submission => (o.requestOf submission).toList
  | _ => []

/-- The outlook after a preparing step. -/
def after : Step → Outlook
  | .attach => { o with suspensions := o.suspensions.attach }
  | .suspend attachment thread => { o with suspensions := o.suspensions.suspend attachment thread }
  | .invalidate index =>
    match o.suspensions.scopes[index]? with
    | some scope => { o with suspensions := o.suspensions.invalidate scope }
    | none => o
  | .detach attachment => { o with suspensions := o.suspensions.detach attachment }
  | .setDisplay id outcome => { o with displays := o.displays.put id outcome }
  | .submit submission | .submitRequest submission =>
    { o with made := o.made + (o.requestOf submission).toList.length }
  | _ => o

end Outlook

namespace Session

/-! ## Sending -/

/-- Nothing but tasks of requests was sent, and flushes only if values are evaluated in batches. -/
structure Sends (s s' : Session) : Prop where
  settings : s'.settings = s.settings
  isOpen : s'.queue.isOpen = s.queue.isOpen
  senders : s'.queue.senders = s.queue.senders
  tasks : ∀ task ∈ s'.queue.waiting, task ∈ s.queue.waiting ∨ task.isCommand = false ∧
    (s.settings.batchEvaluation = false → task.flushScope? = none)

variable {s s' : Session}

theorem Sends.of_eq (settings : s'.settings = s.settings) (queue : s'.queue = s.queue) :
    Sends s s' :=
  ⟨settings, by rw [queue], by rw [queue], by rw [queue]; exact fun _ ht => .inl ht⟩

theorem Sends.refl (s : Session) : Sends s s := .of_eq rfl rfl

/-- Nothing but tasks of requests is sent if this is so first and then. -/
theorem Sends.trans {s'' : Session} (h : Sends s s') (h' : Sends s' s'') : Sends s s'' where
  settings := h'.settings.trans h.settings
  isOpen := h'.isOpen.trans h.isOpen
  senders := h'.senders.trans h.senders
  tasks := by
    intro task ht
    rcases h'.tasks task ht with ht | ⟨hc, hf⟩
    · exact h.tasks task ht
    · exact .inr ⟨hc, fun hb => hf (h.settings ▸ hb)⟩

/-- A task that serves requests may be sent, a flush only if values are evaluated in batches. -/
theorem sends_invoke {task : Task} (command : task.isCommand = false)
    (flush : s.settings.batchEvaluation = false → task.flushScope? = none) :
    Sends s (s.invoke task) := by
  unfold invoke
  dsimp only
  by_cases h : s.queue.isOpen
  · rw [if_pos h]
    refine ⟨rfl, rfl, rfl, fun t ht => ?_⟩
    simp only [CommandQueue.send, h, if_true, List.mem_append, List.mem_singleton] at ht
    rcases ht with ht | rfl
    · exact .inl ht
    · exact .inr ⟨command, flush⟩
  · rw [if_neg h]
    refine ⟨rfl, rfl, rfl, fun t ht => .inl ?_⟩
    simpa [note, withLink, CommandQueue.send, h] using ht

theorem sends_askProbe (s : Session) (context : Context) : Sends s (s.askProbe context).2 := by
  unfold askProbe
  split <;> exact .of_eq rfl rfl

/-- The helper is only found if values are evaluated in batches. -/
theorem batchEvaluation_of_askProbe {context : Context} (h : (s.askProbe context).1 = true) :
    s.settings.batchEvaluation = true := by
  unfold askProbe at h
  split at h
  · assumption
  · cases h

/-- So a batch may send its flush. -/
theorem sends_join (request : Request) (batching : s.settings.batchEvaluation = true) :
    Sends s (s.join request) := by
  unfold join
  dsimp only
  split
  · exact .of_eq rfl rfl
  · have hput : Sends s { s with
        pending := s.pending.put request.context.scope.id [request] } := .of_eq rfl rfl
    refine hput.trans (sends_invoke rfl fun hb => ?_)
    rw [show s.settings.batchEvaluation = false from hb] at batching
    cases batching

/-- Whichever way a request goes, it sends a task that serves requests. -/
theorem sends_accept (s : Session) (request : Request) : Sends s (s.accept request) := by
  have hs := s.sends_askProbe request.context
  rcases s.accept_cases request with ⟨s', rfl | rfl, ha⟩ | ⟨-, hallowed, ha⟩ <;> rw [ha]
  · exact sends_invoke rfl fun _ => rfl
  · exact hs.trans (sends_invoke rfl fun _ => rfl)
  · have hb := batchEvaluation_of_askProbe hallowed
    exact hs.trans (sends_join request (hs.settings ▸ hb))

/-- So does a submission, or it sends nothing. -/
theorem sends_submit (s : Session) (request : Request) : Sends s (s.submit request) := by
  unfold submit
  split
  · have hrecord : Sends s (s.record (.accepted request)) := .of_eq rfl rfl
    exact hrecord.trans (sends_accept _ _)
  · exact .of_eq rfl rfl

/-! ## Outlook of submissions -/

theorem outlook_invoke (s : Session) (task : Task) : (s.invoke task).outlook = s.outlook := by
  unfold invoke
  dsimp only
  split <;> rfl

/-- Looking for the helper changes nothing that decides what requests come to. -/
theorem outlook_askProbe (s : Session) (context : Context) :
    (s.askProbe context).2.outlook = s.outlook := by
  unfold askProbe
  split
  · have hg := Probe.ask_grows s.settings context s.probe s.link
    show Outlook.mk s.suspensions s.connection s.made _ = _
    rw [hg.setup.displays]
    rfl
  · rfl

theorem outlook_join (s : Session) (request : Request) : (s.join request).outlook = s.outlook := by
  unfold join
  dsimp only
  split
  · rfl
  · exact outlook_invoke _ _

/-- Nor does a submission, once its request was made. -/
theorem outlook_submit (s : Session) (request : Request) :
    (s.submit request).outlook = s.outlook := by
  unfold submit
  split
  · have ho := (s.record (.accepted request)).outlook_askProbe request.context
    rcases (s.record (.accepted request)).accept_cases request with
      ⟨s', rfl | rfl, ha⟩ | ⟨-, -, ha⟩ <;> rw [ha]
    · exact outlook_invoke _ _
    · exact (outlook_invoke _ _).trans ho
    · exact (outlook_join _ _).trans ho
  · rfl

/-- The outlook decides which request a submission makes. -/
theorem makeRequest_eq (s : Session) (submission : Submission) :
    s.makeRequest submission = (s.outlook.requestOf submission,
      { s with made := s.made + (s.outlook.requestOf submission).toList.length }) := by
  unfold makeRequest contextAt? scopeAt? Outlook.requestOf outlook
  cases s.suspensions.scopes[submission.place.scope]? <;> rfl

/-! ## Steps -/

/-- A preparing step was taken: it had the effect on the outlook that its kind has, and its requests
wait. -/
structure Prepares (step : Step) (s s' : Session) : Prop where
  sends : Sends s s'
  outlook : s'.outlook = s.outlook.after step
  waiting : s'.ledger.waiting.Perm (s.ledger.waiting ++ s.outlook.submitted step)
  completions : s'.completions = s.completions

/-- A step that leaves the ledger as it is prepares no request. -/
theorem Prepares.of_ledger_eq {step : Step} (sends : Sends s s')
    (outlook : s'.outlook = s.outlook.after step) (none : s.outlook.submitted step = [])
    (ledger : s'.ledger = s.ledger) : Prepares step s s' := by
  refine ⟨sends, outlook, ?_, ?_⟩
  · rw [none, List.append_nil, ledger]
  · exact congrArg Ledger.completed ledger

/-- In a ready session a request that is submitted waits, and nothing is completed. -/
theorem waiting_submit (h : s.Ready) (request : Request) :
    (s.submit request).ledger.waiting.Perm (s.ledger.waiting ++ [request]) ∧
      (s.submit request).completions = s.completions := by
  rcases s.ledger_submit request with ⟨hsender, -⟩ | ⟨-, hl | ⟨-, hl⟩⟩
  · rw [h.hasSender] at hsender
    cases hsender
  · constructor
    · rw [hl, Ledger.waiting_enqueue,
        if_pos (show (s.ledger.accept request).isOpen = true from h.isOpen)]
      exact .refl _
    · exact congrArg Ledger.completed hl
  · constructor
    · rw [hl]
      exact Ledger.waiting_join _ _
    · refine (congrArg Ledger.completed hl).trans ?_
      unfold Ledger.join
      dsimp only
      split <;> rfl

/-- How many requests were made does not matter for sending. -/
theorem Ready.made (h : s.Ready) (n : Nat) : Ready { s with made := n } :=
  ⟨h.isOpen, h.hasSender, h.sound.of_eq rfl rfl rfl rfl rfl, h.tasks⟩

/-- A submission is a preparing step: its request waits behind the others. -/
theorem prepares_submit (h : s.Ready) (submission : Submission) {step : Step}
    (submitted : s.outlook.submitted step = (s.outlook.requestOf submission).toList)
    (outlook : s.outlook.after step =
      { s.outlook with made := s.made + (s.outlook.requestOf submission).toList.length }) :
    Prepares step s ((withRequest submission fun request =>
      changing (·.submit request)).run.run s).2 := by
  rw [run_withRequest, makeRequest_eq]
  cases hr : s.outlook.requestOf submission with
  | none =>
    rw [hr] at submitted outlook
    exact .of_ledger_eq (.of_eq rfl rfl) outlook.symm submitted rfl
  | some request =>
    rw [hr] at submitted outlook
    obtain ⟨hwaiting, hcompletions⟩ := waiting_submit (h.made (s.made + 1)) request
    have hmade : Sends s { s with made := s.made + 1 } := .of_eq rfl rfl
    refine ⟨hmade.trans (sends_submit _ request), ?_, ?_, hcompletions⟩
    · exact (outlook_submit _ request).trans outlook.symm
    · rw [submitted]
      exact hwaiting

theorem displays_defineClass (d : Debuggee) (name : String) :
    (d.defineClass name).2.displays = d.displays := by
  unfold Debuggee.defineClass
  split <;> rfl

/-- What a preparing step does to a session that is ready. -/
theorem prepares_step (h : s.Ready) {step : Step} (preparation : step.isPreparation = true) :
    Prepares step s (s.after (.step step)) := by
  cases step with
  | attach => exact .of_ledger_eq (.of_eq rfl rfl) rfl rfl rfl
  | suspend attachment thread =>
    exact ⟨.of_eq rfl rfl, rfl, .of_eq (List.append_nil _).symm, rfl⟩
  | invalidate index =>
    have hl := s.ledger_invalidateAt index
    have ho : (s.invalidateAt index).outlook = s.outlook.after (.invalidate index) ∧
        Sends s (s.invalidateAt index) := by
      unfold invalidateAt scopeAt? Outlook.after outlook
      dsimp only
      cases s.suspensions.scopes[index]? <;> exact ⟨rfl, .of_eq rfl rfl⟩
    exact .of_ledger_eq ho.2 ho.1 rfl hl
  | detach attachment => exact .of_ledger_eq (.of_eq rfl rfl) rfl rfl rfl
  | available place =>
    show Prepares _ s ((withContext place _).run.run s).2
    rw [run_withContext]
    cases s.contextAt? place with
    | none => exact .of_ledger_eq (.refl s) rfl rfl rfl
    | some context =>
      exact .of_ledger_eq (s.sends_askProbe context) (s.outlook_askProbe context) rfl
        (s.ledger_askProbe context)
  | processDetached => exact .of_ledger_eq (.of_eq rfl rfl) rfl rfl s.ledger_processDetached
  | submit submission => exact prepares_submit h submission rfl rfl
  | submitRequest submission => exact prepares_submit h submission rfl rfl
  | defineClass name =>
    refine .of_ledger_eq (.of_eq rfl rfl) ?_ rfl rfl
    show Outlook.mk s.suspensions s.connection s.made
      (s.link.debuggee.defineClass name).2.displays = _
    rw [displays_defineClass]
    rfl
  | defineMethod owner name signature =>
    refine .of_ledger_eq (.of_eq rfl rfl) ?_ rfl rfl
    show Outlook.mk s.suspensions s.connection s.made
      (s.link.debuggee.defineClass owner).2.displays = _
    rw [displays_defineClass]
    rfl
  | setDisplay id outcome => exact .of_ledger_eq (.of_eq rfl rfl) rfl rfl rfl
  | fail operation error => exact .of_ledger_eq (.of_eq rfl rfl) rfl rfl rfl
  | failRelease error => exact .of_ledger_eq (.of_eq rfl rfl) rfl rfl rfl
  | setHandler handler => exact .of_ledger_eq (.of_eq rfl rfl) rfl rfl rfl
  | _ => cases preparation

/-- The requests of a plain step have plain sinks. -/
theorem isPlain_of_submitted {o : Outlook} {step : Step} (plain : step.isPlain = true) :
    ∀ r ∈ o.submitted step, r.sink.isPlain = true := by
  intro r hr
  have hsubmission : ∀ submission : Submission, submission.sink.isPlain = true →
      r ∈ (o.requestOf submission).toList → r.sink.isPlain = true := by
    intro submission hsink hr
    unfold Outlook.requestOf at hr
    rw [Option.mem_toList, Option.map_eq_some_iff] at hr
    obtain ⟨scope, -, rfl⟩ := hr
    exact hsink
  cases step with
  | submit submission => exact hsubmission submission plain hr
  | submitRequest submission => exact hsubmission submission plain hr
  | _ => cases hr

/-- A preparing step leaves a session ready. -/
theorem Prepares.ready {step : Step} (hp : Prepares step s s') (hsound : s'.ledger.Sound)
    (h : s.Ready) : s'.Ready where
  isOpen := hp.sends.isOpen.trans h.isOpen
  hasSender := by
    rw [CommandQueue.hasSender, hp.sends.senders]
    exact h.hasSender
  sound := hsound
  tasks := by
    intro task ht
    rcases hp.sends.tasks task ht with ht | ⟨hc, -⟩
    · exact h.tasks task ht
    · exact hc

/-- A plain step keeps a session calm. -/
theorem Prepares.calm {step : Step} (hp : Prepares step s s') (plain : step.isPlain = true)
    (hsound : s'.ledger.Sound) (h : s.Calm) : s'.Calm where
  toReady := hp.ready hsound h.toReady
  sinks := by
    intro r hr
    rcases List.mem_append.1 (hp.waiting.subset hr) with hr | hr
    · exact h.sinks r hr
    · exact isPlain_of_submitted plain r hr

end Session

end BatchStringify
