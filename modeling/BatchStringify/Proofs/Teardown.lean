import BatchStringify.Proofs.ExactlyOnce
import BatchStringify.Proofs.Exhaustion
import BatchStringify.Proofs.Ledger.Continuation
import BatchStringify.Proofs.ScopeHistory

/-!
# Nothing is delivered after teardown

A scope ends when it is invalidated or when its attachment is detached, by the embedder, in a command or by
a sink, and all of these calls are told by the events and the journal of a run. So validity can be read
from a run (`suspensions_play`). Commands of a scope that ended stay in the queue and new ones can still
come, but each finds out when it is taken, and then it does nothing: what is completed for the scope from
then on was completed by hand.
-/

namespace BatchStringify

/-- Whether a step brings requests to their end that were never submitted. -/
def Step.isByHand : Step → Bool
  | .request _ _ | .evaluateBatch _ _ _ => true
  | _ => false

/-- Whether a step submits a request or asks the probe, on behalf of a scope. -/
def Step.isSubmission : Step → Bool
  | .submit _ | .submitRequest _ | .available _ => true
  | _ => false

namespace Session

/-- Whether a request was made in one of the steps that bring their requests to their end by hand. -/
def MadeByHand (taken : List (Session × Step)) (request : Request) : Prop :=
  ∃ p ∈ taken, p.2.isByHand = true ∧ p.1.made ≤ request.serial ∧
    request.serial < (p.1.after (.step p.2)).made

/-! ## Completions -/

/-- Whether all that was completed between two sessions is allowed. -/
def CompletesOnly (allowed : Request → Prop) (s s' : Session) : Prop :=
  ∃ done, s'.completions = s.completions ++ done ∧ ∀ p ∈ done, allowed p.1

section CompletesOnly

variable {allowed : Request → Prop}

instance : Std.Refl (CompletesOnly allowed) := ⟨fun s => ⟨[], by simp, by simp⟩⟩

instance : IsTrans Session (CompletesOnly allowed) where
  trans := by
    rintro s s' s'' ⟨done, hdone, hallowed⟩ ⟨done', hdone', hallowed'⟩
    refine ⟨done ++ done', by rw [hdone', hdone, List.append_assoc], fun p hp => ?_⟩
    rcases List.mem_append.1 hp with hp | hp
    · exact hallowed p hp
    · exact hallowed' p hp

theorem CompletesOnly.of_eq {s s' : Session} (h : s'.completions = s.completions) :
    CompletesOnly allowed s s' := ⟨[], by rw [h, List.append_nil], by simp⟩

/-- Submissions and all other steps that are not by hand complete nothing. -/
theorem completions_perform {step : Step} (h : step.isByHand = false) (s : Session) :
    (s.after (.step step)).completions = s.completions := by
  have hsubmit : ∀ submission : Submission, ((withRequest submission fun request =>
      changing (·.submit request)).run.run s).2.completions = s.completions := by
    intro submission
    rw [run_withRequest]
    rcases hm : s.makeRequest submission with ⟨_ | request, s'⟩
    · unfold makeRequest at hm
      split at hm <;> cases hm
      rfl
    · have hs' : s'.completions = s.completions := by
        unfold makeRequest at hm
        split at hm <;> cases hm
        rfl
      rw [← hs']
      show (s'.submit request).ledger.completed = s'.ledger.completed
      rcases s'.ledger_submit request with ⟨-, hl⟩ | ⟨-, hl | ⟨-, hl⟩⟩ <;> rw [hl]
      · rfl
      · rw [Ledger.completed_join]
        rfl
  have hlink : ∀ {kind : Call → Prop} {link : Link}, s.link.Grows kind link →
      (s.withLink link).completions = s.completions :=
    fun hg => congrArg Ledger.completed (s.ledger_withLink hg)
  -- the rest changes the debuggee, the scopes or the queue, and these hold no completions
  cases step with
  | request submission ending => cases h
  | evaluateBatch place helper values => cases h
  | submit submission => exact hsubmit submission
  | submitRequest submission => exact hsubmit submission
  | invalidate index => exact congrArg Ledger.completed (s.ledger_invalidateAt index)
  | processDetached => exact congrArg Ledger.completed s.ledger_processDetached
  | invoke command => exact congrArg Ledger.completed (s.ledger_offer command)
  | available place =>
    show ((withContext place _).run.run s).2.completions = _
    rw [run_withContext]
    cases s.contextAt? place with
    | none => rfl
    | some context => exact congrArg Ledger.completed (s.ledger_askProbe context)
  | probe place =>
    show ((withContext place _).run.run s).2.completions = _
    rw [run_withContext]
    cases s.contextAt? place with
    | none => rfl
    | some context => exact hlink (Probe.ask_grows s.settings context s.spareProbe s.link)
  | call call =>
    have hg : s.link.Grows (fun _ => True) (s.link.perform call).2 :=
      s.link.perform_grows trivial
    show (callDirectly call s).2.completions = _
    unfold callDirectly
    rcases hr : s.link.perform call with ⟨payload | outcome, link⟩ <;> rw [hr] at hg
    · exact hlink hg
    · exact hlink hg
  | _ => rfl

variable {scope : Scope} {taken : List (Session × Step)}

/-- What a step completes was made in it, by hand. -/
theorem completesOnly_step {s : Session} {step : Step} (h : (s, step) ∈ taken) :
    CompletesOnly (MadeByHand taken) s (s.after (.step step)) := by
  by_cases hhand : step.isByHand = true
  · obtain ⟨-, done, hdone, hserials⟩ := Ledger.steps_complete (leads_perform step s)
    exact ⟨done, hdone, fun p hp => ⟨(s, step), h, hhand, hserials p hp⟩⟩
  · exact .of_eq (completions_perform (Bool.eq_false_iff.2 hhand) s)

/-- A step completes only requests that it makes by hand. -/
theorem completesOnly_stepped {s : Session} {step : Step} (h : (s, step) ∈ taken)
    (command : String) : CompletesOnly (MadeByHand taken) s (s.stepped command step) :=
  along_stepped (completesOnly_step h)
    fun t _ => .of_eq (congrArg Ledger.completed (t.ledger_emit _))

end CompletesOnly

variable {scope : Scope} {taken : List (Session × Step)}

/-- In an event after the end of a scope, requests of the scope are only completed by hand. -/
theorem completesOnly_after {s : Session} {event : Event} (hs : s.ledger.Sound)
    (ended : s.suspensions.isValid scope = false) (h : ∀ p ∈ s.stepsAt event, p ∈ taken) :
    CompletesOnly (fun r => r.context.scope = scope → MadeByHand taken r) s (s.after event) := by
  have hweaken : ∀ {t t' : Session}, CompletesOnly (MadeByHand taken) t t' →
      CompletesOnly (fun r => r.context.scope = scope → MadeByHand taken r) t t' :=
    fun ⟨done, hdone, hhand⟩ => ⟨done, hdone, fun p hp _ => hhand p hp⟩
  cases event with
  | step step => exact hweaken (completesOnly_step (h (s, step) (List.mem_singleton.2 rfl)))
  | turn =>
    cases hw : s.queue.waiting with
    | nil =>
      rw [after_turn_of_nil hw]
      exact Std.Refl.refl s
    | cons task rest =>
      by_cases hserved : ∃ served, task.servedScope? = some served
      · obtain ⟨served, hserved⟩ := hserved
        have hcarries := carries_turn hw hserved
        generalize hl : (s.after .turn).ledger = l at hcarries
        obtain ⟨takes, done, more, first, cancelled, -⟩ := hcarries
        obtain ⟨-, hcompleted, -⟩ := takes.keeps
        refine ⟨done, ?_, fun p hp hscope => ?_⟩
        · exact (congrArg Ledger.completed hl).trans (congrArg (· ++ done) hcompleted)
        · -- the task was cancelled, since it is a task of the scope that ended
          have hin := first.subset (List.mem_map_of_mem hp)
          rw [takes.scope_eq hs p.1 hin] at hscope
          rw [cancelled (hscope ▸ ended)] at hp
          cases hp
      · cases task with
        | command command place =>
          have hcommand : CompletesOnly (MadeByHand taken) (s.taken rest) (s.after .turn) := by
            refine along_turn_command hw ?_ ?_ fun p hp name => completesOnly_stepped (h p hp) name
            · exact fun t _ _ => .of_eq (congrArg Ledger.completed (t.ledger_emit _))
            · exact fun t _ _ => .of_eq (congrArg Ledger.completed (t.ledger_note_panic _ _))
          exact hweaken hcommand
        | flush context => exact absurd ⟨_, rfl⟩ hserved
        | individual request => exact absurd ⟨_, rfl⟩ hserved
  | dropSender => exact .of_eq (congrArg Ledger.completed s.ledger_dropOwnSender)
  | dropQueue => exact .of_eq rfl

/-- A run completes nothing for a scope that has ended but what its steps make by hand. -/
theorem completesOnly_play {s : Session} {events : List Event} (hs : s.ledger.Sound)
    (ended : s.suspensions.isValid scope = false) (h : ∀ p ∈ s.steps events, p ∈ taken) :
    CompletesOnly (fun r => r.context.scope = scope → MadeByHand taken r) s (s.play events) := by
  induction events generalizing s with
  | nil => exact Std.Refl.refl s
  | cons event rest ih =>
    have hfirst := completesOnly_after hs ended fun p hp => h p (List.mem_append_left _ hp)
    have hrest := ih (sound_after event hs) (isValid_play ended [event])
      fun p hp => h p (List.mem_append_right _ hp)
    exact IsTrans.trans _ _ _ hfirst hrest

/-! ## Exchanges -/

/-- A task of a scope that ended does not talk to the debuggee. -/
theorem exchanges_turn {s : Session} {task : Task} {rest : List Task}
    (h : s.queue.waiting = task :: rest) (serves : task.servedScope? = some scope)
    (ended : s.suspensions.isValid scope = false) : (s.after .turn).exchanges = s.exchanges := by
  have htask : task.scope? = some scope := by
    cases task with
    | command command place => cases serves
    | _ => exact serves
  have hact : (s.taken rest).act task = cancel task := by
    rw [act_of_scope htask, show (s.taken rest).suspensions = s.suspensions from rfl, ended]
    rfl
  rw [after_turn_of_cons h]
  unfold execute
  unfold act at hact
  dsimp only
  rw [hact]
  cases task with
  | command command place => cases serves
  | flush context => exact exchanges_note _ _
  | individual request => rfl

/-- Whether only look-ups were made between two sessions. -/
def LooksUp (s s' : Session) : Prop :=
  ∃ more, s'.exchanges = s.exchanges ++ more ∧ ∀ p ∈ more, p.1.isLookUp = true

instance : Std.Refl LooksUp := ⟨fun s => ⟨[], by simp, by simp⟩⟩

instance : IsTrans Session LooksUp where
  trans := by
    rintro s s' s'' ⟨more, hmore, hlook⟩ ⟨more', hmore', hlook'⟩
    refine ⟨more ++ more', by rw [hmore', hmore, List.append_assoc], fun p hp => ?_⟩
    rcases List.mem_append.1 hp with hp | hp
    · exact hlook p hp
    · exact hlook' p hp

theorem LooksUp.of_eq {s s' : Session} (h : s'.exchanges = s.exchanges) : LooksUp s s' :=
  ⟨[], by rw [h, List.append_nil], by simp⟩

/-- A question makes no calls but those that look things up. -/
theorem looksUp_askProbe (s : Session) (context : Context) :
    LooksUp s (s.askProbe context).2 := by
  unfold askProbe
  split
  · exact exchanges_withLink (Probe.ask_grows s.settings context s.probe s.link)
  · exact Std.Refl.refl s

/-- A submission makes no others. -/
theorem looksUp_submit (s : Session) (request : Request) : LooksUp s (s.submit request) := by
  have hrecord : ∀ (s : Session) (entry : Entry), entry.exchange? = none →
      LooksUp s (s.record entry) := by
    intro s entry he
    exact .of_eq (by simp [exchanges, record, withLink, Link.record, he])
  refine along_submit (fun s _ => hrecord s _ rfl) (fun s _ => hrecord s _ rfl) looksUp_askProbe
    (fun s task => ?_) (fun s _ => .of_eq rfl) s request
  unfold invoke
  dsimp only
  split
  · exact .of_eq rfl
  · exact .of_eq (exchanges_note _ _)

/-- Nor does a step that submits. -/
theorem looksUp_submission {step : Step} (h : step.isSubmission = true) (s : Session) :
    LooksUp s (s.after (.step step)) := by
  have hsubmit : ∀ submission : Submission, LooksUp s ((withRequest submission fun request =>
      changing (·.submit request)).run.run s).2 := by
    intro submission
    rw [run_withRequest]
    unfold makeRequest
    cases s.contextAt? submission.place with
    | none => exact Std.Refl.refl s
    | some context =>
      exact IsTrans.trans _ { s with made := s.made + 1 } _ (.of_eq rfl) (looksUp_submit _ _)
  cases step with
  | submit submission => exact hsubmit submission
  | submitRequest submission => exact hsubmit submission
  | available place =>
    show LooksUp s ((withContext place _).run.run s).2
    rw [run_withContext]
    cases s.contextAt? place with
    | none => exact Std.Refl.refl s
    | some context => exact looksUp_askProbe s context
  | _ => cases h

/-! ## The end of a scope -/

/-- A task of a scope that ended does nothing. -/
theorem turn_of_ended {s : Session} (hserves : s.servedNext? = some scope)
    (ended : s.suspensions.isValid scope = false) :
    (s.after .turn).completions = s.completions ∧ (s.after .turn).exchanges = s.exchanges := by
  cases hw : s.queue.waiting with
  | nil => simp [servedNext?, hw] at hserves
  | cons task rest =>
    have hserved : task.servedScope? = some scope := by simpa [servedNext?, hw] using hserves
    refine ⟨?_, exchanges_turn hw hserved ended⟩
    have hcarries := carries_turn hw hserved
    show (s.after .turn).ledger.completed = s.ledger.completed
    generalize (s.after .turn).ledger = l at hcarries
    obtain ⟨takes, done, more, first, cancelled, -⟩ := hcarries
    obtain ⟨-, hcompleted, -⟩ := takes.keeps
    rw [cancelled ended, ← hcompleted]
    exact List.append_nil _

/-- Once the queue has run empty, no batch is left over. -/
theorem pending_runPending {s : Session} (hs : s.ledger.Sound) (isOpen : s.queue.isOpen = true)
    (id : Nat) : s.runPending.2.pending.find? id = none := by
  have hplay : s.runPending.2 = s.play (List.replicate s.runPending.1 .turn) :=
    drain_eq_play s.work s
  have hopen : ∀ n (t : Session), (t.play (List.replicate n .turn)).queue.isOpen = t.queue.isOpen := by
    intro n
    induction n with
    | zero => exact fun t => rfl
    | succ n ih => exact fun t => (ih (t.after .turn)).trans t.isOpen_turn
  have hsound : s.runPending.2.ledger.Sound := by
    rw [hplay]
    exact sound_play _ hs
  have hflushes := hsound.flushes_eq <| by
    show s.runPending.2.queue.isOpen = true
    rw [hplay, hopen]
    exact isOpen
  have hempty : s.runPending.2.ledger.flushes = [] := by
    show s.runPending.2.queue.waiting.filterMap _ = []
    rw [waiting_runPending]
    rfl
  rw [hempty, List.map_nil] at hflushes
  rw [Table.find?_eq_none_iff]
  show id ∉ s.runPending.2.ledger.pending.keys
  rw [← hflushes]
  exact List.not_mem_nil

variable (debuggee : Debuggee) (settings : DebuggerSettings) (connection : Connection)

/-- A scope is valid exactly if no call so far ended it. Once it is not valid at a point where no task is
executed, then from there on, whatever comes: it stays so; only requests that were made by hand are
completed for it; its tasks complete nothing and do not talk to the debuggee, and its submissions only look
up the helper; and the next complete run of the queue leaves no batch of it behind. -/
theorem nothing_after_teardown (past : List Event) :
    let s := (start debuggee settings connection).play past
    (∀ scope, s.suspensions.isValid scope = true ↔
      ¬Suspensions.Ended {} ((start debuggee settings connection).scopeCalls past) scope) ∧
    ∀ scope, s.suspensions.isValid scope = false → ∀ future,
      let s' := s.play future
      s'.suspensions.isValid scope = false ∧
      (∃ done, s'.completions = s.completions ++ done ∧
        ∀ p ∈ done, p.1.context.scope = scope → MadeByHand (s.steps future) p.1) ∧
      (∀ t ∈ s.turns future, t.servedNext? = some scope →
        (t.after .turn).completions = t.completions ∧ (t.after .turn).exchanges = t.exchanges) ∧
      (∀ p ∈ s.steps future, p.2.isSubmission = true → LooksUp p.1 (p.1.after (.step p.2))) ∧
      (s'.queue.isOpen = true → s'.runPending.2.pending.find? scope.id = none) := by
  intro s
  have hs : s.ledger.Sound := sound_play past (sound_start debuggee settings connection)
  constructor
  · intro scope
    rw [show s.suspensions = _ from suspensions_play past (start debuggee settings connection)]
    exact Suspensions.isValid_history_iff _ scope
  · intro scope ended future s'
    refine ⟨isValid_play ended future, ?_, ?_, ?_, ?_⟩
    · exact completesOnly_play hs ended fun p hp => hp
    · intro t ht hserves
      obtain ⟨before, after, -, rfl⟩ := exists_of_mem_turns ht
      exact turn_of_ended hserves (isValid_play ended before)
    · exact fun p _ hsubmission => looksUp_submission hsubmission p.1
    · exact fun isOpen => pending_runPending (sound_play future hs) isOpen scope.id

/-- An attachment that is detached while a batch waits, a second one with a batch of its own, and a late
submission for the first. -/
def reattached : List Event :=
  [.step (.suspend 0 (some 1)),
    .step (.submit ⟨"a", .object 76 2, ⟨0, none, none⟩, ⟨[], [], [], none⟩⟩),
    .step (.detach 0), .step .attach, .step (.suspend 1 (some 1)),
    .step (.submit ⟨"b", .object 76 3, ⟨1, none, none⟩, ⟨[], [], [], none⟩⟩),
    .step (.submit ⟨"c", .object 76 4, ⟨0, none, none⟩, ⟨[], [], [], none⟩⟩)]

/-- Both requests of the first stop wait when it is over, and only the one of the second is completed. -/
theorem nothing_after_teardown_reattached :
    let s := (start .withHelper {} .localProcess).play reattached
    let s' := s.play [.turn, .turn]
    s.suspensions.isValid ⟨1, some 1, 0⟩ = false ∧ s.pendingLength 1 = 2 ∧
    s'.completions.map (·.1.label) = ["b"] ∧
    (∃ done, s'.completions = s.completions ++ done ∧
      ∀ p ∈ done, p.1.context.scope = ⟨1, some 1, 0⟩ →
        MadeByHand (s.steps [.turn, .turn]) p.1) ∧
    s'.runPending.2.pending.find? 1 = none := by
  have hended : ((start .withHelper {} .localProcess).play reattached).suspensions.isValid
      ⟨1, some 1, 0⟩ = false := by decide +kernel
  obtain ⟨-, hdone, -, -, hpending⟩ := (nothing_after_teardown .withHelper {} .localProcess
    reattached).2 ⟨1, some 1, 0⟩ hended [.turn, .turn]
  exact ⟨hended, by decide +kernel, by decide +kernel, hdone, hpending (by decide +kernel)⟩

end Session

end BatchStringify
