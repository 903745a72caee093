import BatchStringify.Proofs.Calm.Steps
import BatchStringify.Proofs.Elementwise
import BatchStringify.Proofs.PendingFlushes
import BatchStringify.Proofs.Reactions

/-!
# Grounded sessions

A session is grounded in an earlier one as long as its debuggee is set up as it was then and its probe knows
nothing but what there was to find then (`Grounded`). So it makes no difference who asks the probe first: a
batch is only gathered where the helper is known, and an object that was seen with a thread only gets a task
of its own if no objects are gathered at all. Submissions and turns keep a session grounded.
-/

namespace BatchStringify.Session

/-- Whether a session gathers a request whoever asked its probe before: its probe can find the helper, and the
request is one for an object that was seen with a thread. -/
def groupable (o : Session) (r : Request) : Bool :=
  o.gathers && (r.value.objectId?.isSome && r.context.scope.thread.isSome)

/-- Whether the debuggee of a session, and what its probe can find, are as they were at the outset. -/
structure Grounded (o s : Session) : Prop where
  settings : s.settings = o.settings
  connection : s.connection = o.connection
  setup : o.link.debuggee.SameSetup s.link.debuggee
  numbered : s.link.debuggee.Numbered
  probe : s.probe = .unknown ∨ s.probe = o.found
  gathered : s.pending.entries ≠ [] → o.gathers = true ∧ s.probe = o.found
  single : ∀ r, Task.individual r ∈ s.queue.waiting → o.groupable r = false

variable {o s : Session}

theorem groupable_of_local {r : Request} (h : r.value.objectId? = none) : o.groupable r = false := by
  simp [groupable, h]

/-- What the journal says, which scopes there are and how many requests were made has no part in this. -/
theorem Grounded.alter (h : Grounded o s) (suspensions : Suspensions) (journal : List Entry)
    (fault : Option RemoteError) (made : Nat) :
    Grounded o { s with
      link := { s.link with journal := journal, releaseFault := fault }
      suspensions := suspensions
      made := made } :=
  ⟨h.settings, h.connection, h.setup, h.numbered, h.probe, h.gathered, h.single⟩

/-! ## Turns -/

/-- Whether the debuggee of a session was not set up anew. -/
def Lasts (s s' : Session) : Prop :=
  s.link.debuggee.SameSetup s'.link.debuggee ∧
    (s.link.debuggee.Numbered → s'.link.debuggee.Numbered)

instance : Std.Refl Lasts := ⟨fun _ => ⟨.refl _, id⟩⟩

instance : IsTrans Session Lasts := ⟨fun _ _ _ h h' => ⟨h.1.trans h'.1, h'.2 ∘ h.2⟩⟩

/-- A turn that serves requests leaves what was found at the outset to be found. -/
theorem lasts_turn {task : Task} {rest : List Task} (hw : s.queue.waiting = task :: rest)
    (served : task.isCommand = false) : Lasts s (s.after .turn) := by
  have hcomplete : ∀ request ∈ s.next, ∀ completion, Along Lasts (complete request completion) := by
    intro request _ completion s
    rw [Lasts, debuggee_complete]
    exact ⟨.refl _, id⟩
  have hnote : ∀ (s : Session) notice, Lasts s (s.note notice) := fun _ _ => ⟨.refl _, id⟩
  have hturn : Lasts (s.released task rest) (s.after .turn) :=
    along_turn (fun hg => ⟨hg.setup, hg.numbered⟩) (fun _ hg => ⟨hg.setup, hg.numbered⟩)
      hcomplete hnote hw served
  exact hturn

/-- A turn that serves requests keeps a session grounded, whether or not its task panics. -/
theorem Grounded.turn (h : Grounded o s) (ready : s.Ready)
    (connection : (s.after .turn).connection = s.connection) : Grounded o (s.after .turn) := by
  cases hw : s.queue.waiting with
  | nil => rwa [after_turn_of_nil hw]
  | cons task rest =>
    have served := ready.tasks task (by rw [hw]; exact List.mem_cons_self)
    have hr := reacts_turn hw served
    obtain ⟨hsetup, hnumbered⟩ := lasts_turn hw served
    have hprobe : (s.after .turn).probe = s.probe := hr.probe
    refine ⟨hr.settings.trans h.settings, connection.trans h.connection, h.setup.trans hsetup,
      hnumbered h.numbered, ?_, ?_, ?_⟩
    · rw [hprobe]
      exact h.probe
    · -- a batch that still waits waited before: a turn gathers nothing
      intro hne
      rw [hprobe]
      refine h.gathered fun hnone => hne ?_
      rw [hr.pending, released]
      cases task.flushScope? with
      | none => exact hnone
      | some scope => simp [Table.erase, hnone]
    · -- a turn sends nothing but commands
      intro r hmem
      obtain ⟨sent, hsent, hcommands⟩ := hr.sent
      rw [hsent] at hmem
      rcases List.mem_append.1 hmem with hmem | hmem
      · refine h.single r ?_
        rw [hw]
        exact List.mem_cons_of_mem _ hmem
      · cases (hcommands _ hmem).1

/-! ## Submissions -/

/-- After a question something is known. -/
theorem found_ne_unknown (o : Session) : o.found ≠ .unknown := by
  unfold found
  cases o.connection with
  | remote => simp
  | localProcess => cases o.link.debuggee.helper? o.settings <;> simp [Probe.ofHelper]

/-- A question to the probe is answered with what there is to find, unless there is no thread. -/
theorem Grounded.ask (h : Grounded o s) {context : Context}
    (own : context.connection = s.connection) :
    (s.probe.ask s.settings context s.link).1 = o.found ∧
        (s.probe = .unknown → o.found.allows = true → context.scope.thread.isSome) ∨
      (s.probe.ask s.settings context s.link).1 = .unknown ∧ s.probe = .unknown ∧
        context.scope.thread = none := by
  rw [Probe.ask_fst]
  rcases h.probe with hp | hp <;> rw [hp]
  · rw [h.connection] at own
    unfold found
    rw [own, h.setup.helper?, h.settings]
    cases o.connection with
    | remote => exact .inl ⟨rfl, fun _ hallows => by cases hallows⟩
    | localProcess =>
      cases context.scope.thread with
      | none => exact .inr ⟨rfl, rfl, rfl⟩
      | some thread => exact .inl ⟨rfl, fun _ _ => rfl⟩
  · have hknown := o.found_ne_unknown
    refine .inl ⟨?_, fun hunknown => absurd hunknown hknown⟩
    cases hf : o.found with
    | unknown => exact absurd hf hknown
    | available helper => rfl
    | unavailable => rfl

/-- What a question to the probe comes to in a grounded session: the answer, and what the probe knows then.
-/
inductive Consulted (o : Session) (context : Context) (before : Probe) : Bool → Probe → Prop where
  /-- No objects are gathered, whatever the probe knows. -/
  | never (probe : Probe) (gathers : o.gathers = false) : Consulted o context before false probe
  /-- The helper is known, now if not before. -/
  | known (gathers : o.gathers = true)
    (asked : before = .unknown → context.scope.thread.isSome) :
    Consulted o context before true o.found
  /-- The helper is not known yet, and there is no thread to look for it. -/
  | unasked (gathers : o.gathers = true) (unknown : before = .unknown)
    (thread : context.scope.thread = none) : Consulted o context before false .unknown

/-- A question finds what the one at the outset would have found. -/
theorem Grounded.askProbe (h : Grounded o s) {context : Context}
    (own : context.connection = s.connection) :
    Grounded o (s.askProbe context).2 ∧
      Consulted o context s.probe (s.askProbe context).1 (s.askProbe context).2.probe := by
  have hg := Probe.ask_grows s.settings context s.probe s.link
  -- a probe may learn where the helper is, but what was gathered rests on its knowing that already
  have hgrounded : ∀ probe, (probe = .unknown ∨ probe = o.found) →
      (s.probe = o.found → probe = o.found) →
      Grounded o { s with
        probe := probe, link := (s.probe.ask s.settings context s.link).2 } :=
    fun probe hprobe hkeeps => ⟨h.settings, h.connection, h.setup.trans hg.setup,
      hg.numbered h.numbered, hprobe,
      fun hne => ⟨(h.gathered hne).1, hkeeps (h.gathered hne).2⟩, h.single⟩
  unfold Session.askProbe
  by_cases hb : s.settings.batchEvaluation = true
  · have hgathers : o.gathers = o.found.allows := by
      rw [gathers, ← h.settings, hb, Bool.true_and]
    rw [if_pos hb]
    dsimp only
    rcases h.ask own with ⟨hfound, hasked⟩ | ⟨hunknown, hp, ht⟩
    · rw [hfound, ← hgathers]
      refine ⟨hgrounded _ (.inr rfl) fun _ => rfl, ?_⟩
      rw [← hgathers] at hasked
      cases ho : o.gathers with
      | false => exact .never _ ho
      | true => exact .known ho fun hp => hasked hp ho
    · rw [hunknown]
      refine ⟨hgrounded _ (.inl rfl) fun hf => absurd (hf.symm.trans hp) o.found_ne_unknown, ?_⟩
      cases ho : o.gathers with
      | false => exact .never _ ho
      | true => exact .unasked ho hp ht
  · rw [if_neg hb]
    refine ⟨h, .never _ ?_⟩
    rw [gathers, ← h.settings, Bool.eq_false_iff.2 hb, Bool.false_and]

/-- A task may be sent alone if its request cannot be grouped. -/
theorem Grounded.invoke (h : Grounded o s) (isOpen : s.queue.isOpen = true) {task : Task}
    (single : ∀ r, task = .individual r → o.groupable r = false) : Grounded o (s.invoke task) := by
  rw [invoke_of_open isOpen]
  refine ⟨h.settings, h.connection, h.setup, h.numbered, h.probe, h.gathered, ?_⟩
  intro r hr
  simp only [CommandQueue.send, isOpen, if_true, List.mem_append, List.mem_singleton] at hr
  rcases hr with hr | hr
  · exact h.single r hr
  · exact single r hr.symm

/-- A request may join a batch where batches are gathered. -/
theorem Grounded.join (h : Grounded o s) (isOpen : s.queue.isOpen = true)
    (gathered : o.gathers = true ∧ s.probe = o.found) (request : Request) :
    Grounded o (s.join request) := by
  have hput : ∀ pending, Grounded o { s with pending := pending } := fun pending =>
    ⟨h.settings, h.connection, h.setup, h.numbered, h.probe, fun _ => gathered, h.single⟩
  unfold Session.join
  dsimp only
  split
  · exact hput _
  · have hbatch := hput (s.pending.put request.context.scope.id [request])
    exact hbatch.invoke isOpen fun r hr => nomatch hr

/-- The two ways of a request: it joins its batch, or it gets a task of its own since it is not to be
gathered. -/
inductive Lands (o s : Session) (request : Request) : Session → Prop where
  | batch {t : Session} (grounded : Grounded o t) (gathered : o.gathers = true ∧ t.probe = o.found)
    (object : request.value.objectId?.isSome) (queue : t.queue = s.queue)
    (pending : t.pending = s.pending) :
    Lands o s request (t.join request)
  | single {t : Session} (grounded : Grounded o t) (ungrouped : o.groupable request = false)
    (queue : t.queue = s.queue) (pending : t.pending = s.pending) :
    Lands o s request (t.invoke (.individual request))

/-- So a submission goes to a batch or alone as it would have at the outset. -/
theorem Grounded.lands (h : Grounded o s) (hasSender : s.queue.hasSender = true) {request : Request}
    (own : request.context.connection = s.connection) : Lands o s request (s.submit request) := by
  have haccepted : Grounded o (s.record (.accepted request)) := h.alter s.suspensions _ _ _
  rw [submit_of_hasSender hasSender]
  by_cases hobject : request.value.objectId?.isSome
  · obtain ⟨hasked, hc⟩ := haccepted.askProbe own
    obtain ⟨hqueue, hpending⟩ := (s.record (.accepted request)).askProbe_keeps request.context
    rw [accept_of_object hobject]
    generalize (s.record (.accepted request)).askProbe request.context = asked
      at hasked hc hqueue hpending ⊢
    obtain ⟨answer, s'⟩ := asked
    generalize hp : s'.probe = probe at hc
    cases hc with
    | never probe gathers => exact .single hasked (by simp [groupable, gathers]) hqueue hpending
    | known gathers _ => exact .batch hasked ⟨gathers, hp⟩ hobject hqueue hpending
    | unasked _ _ thread => exact .single hasked (by simp [groupable, thread]) hqueue hpending
  · have hnone := Option.not_isSome_iff_eq_none.1 hobject
    rw [accept_of_local hnone]
    exact .single haccepted (groupable_of_local hnone) rfl rfl

/-- A submission keeps a session grounded, whether its request joins a batch or gets a task of its own. -/
theorem Grounded.submit (h : Grounded o s) (ready : s.Ready) {request : Request}
    (own : request.context.connection = s.connection) : Grounded o (s.submit request) := by
  have hlands := h.lands ready.hasSender own
  generalize s.submit request = s' at hlands
  cases hlands with
  | batch grounded gathered object queue pending =>
    refine grounded.join ?_ gathered request
    rw [queue]
    exact ready.isOpen
  | single grounded ungrouped queue pending =>
    refine grounded.invoke ?_ fun r hr => ?_
    · rw [queue]
      exact ready.isOpen
    · obtain rfl := Task.individual.inj hr
      exact ungrouped

theorem connection_of_requestOf {submission : Submission} {request : Request}
    (h : s.outlook.requestOf submission = some request)
    (own : submission.place.connection = none) : request.context.connection = s.connection := by
  obtain ⟨scope, -, rfl⟩ := Option.map_eq_some_iff.1 h
  rw [own]
  rfl

/-- A submission leaves a session grounded. -/
theorem Grounded.withRequest (h : Grounded o s) (ready : s.Ready) {submission : Submission}
    (own : submission.place.connection = none) :
    Grounded o ((Session.withRequest submission fun request =>
      changing (·.submit request)).run.run s).2 := by
  rw [run_withRequest, makeRequest_eq]
  have hmade : ∀ n, Grounded o { s with made := n } := h.alter s.suspensions _ _
  cases hr : s.outlook.requestOf submission with
  | none => exact hmade _
  | some request =>
    have hown : request.context.connection = s.connection := connection_of_requestOf hr own
    exact (hmade (s.made + 1)).submit (ready.made _) hown

/-- At the start a session is grounded in itself. -/
theorem grounded_start {debuggee : Debuggee} (numbered : debuggee.Numbered)
    (settings : DebuggerSettings) (connection : Connection) :
    Grounded (start debuggee settings connection) (start debuggee settings connection) where
  settings := rfl
  connection := rfl
  setup := .refl _
  numbered := numbered
  probe := .inl rfl
  gathered := fun hne => absurd rfl hne
  single := fun _ hr => by cases hr

end BatchStringify.Session
