import BatchStringify.Proofs.Teardown

/-!
# Who calls the debuggee

A session calls the debuggee for two reasons: a submission or a question may look for the helper, and a task
that serves requests runs `toString` or makes a batch attempt with the helper that is known when it is taken.
Everything else that is called, the embedder calls by a step of its own. So each exchange of an event was
made in one of the steps that the event takes, or to serve the requests of its turn (`makes_after`).
-/

namespace BatchStringify

/-- Whether a call runs a method of the debuggee by its name. -/
def Call.isInvocation : Call → Bool
  | .invokeStatic _ _ _ _ => true
  | _ => false

/-- Whether a call serves requests: it runs `toString`, or an attempt with the known helper makes it. -/
def Call.Serves (settings : DebuggerSettings) (probe : Probe) (call : Call) : Prop :=
  call.isDisplay = true ∨ ∃ helper, probe.helper? = some helper ∧ call.isAttempt settings helper

/-- Whether a step makes calls that the embedder chose: a call of its own, or an attempt with a helper of its
own. -/
def Step.isDirect : Step → Bool
  | .call _ | .evaluateBatch _ _ _ => true
  | _ => false

/-- Whether a step may ask a probe, the one of the session or the embedder's own. -/
def Step.asksProbe : Step → Bool
  | .submit _ | .submitRequest _ | .available _ | .probe _ => true
  | _ => false

namespace Session

/-- Whether only allowed exchanges were made between two sessions. -/
def Makes (allowed : Call × Outcome → Prop) (s s' : Session) : Prop :=
  ∃ more, s'.exchanges = s.exchanges ++ more ∧ ∀ x ∈ more, allowed x

/-- The exchanges that were made between two sessions. -/
def exchangesSince (s s' : Session) : List (Call × Outcome) :=
  s'.exchanges.drop s.exchanges.length

variable {s s' : Session} {allowed : Call × Outcome → Prop}

instance : Std.Refl (Makes allowed) := ⟨fun s => ⟨[], by simp, by simp⟩⟩

instance : IsTrans Session (Makes allowed) where
  trans := by
    rintro s s' s'' ⟨more, hmore, hallowed⟩ ⟨more', hmore', hallowed'⟩
    refine ⟨more ++ more', by rw [hmore', hmore, List.append_assoc], fun x hx => ?_⟩
    rcases List.mem_append.1 hx with hx | hx
    · exact hallowed x hx
    · exact hallowed' x hx

/-- Without new exchanges nothing was called. -/
theorem Makes.of_eq (h : s'.exchanges = s.exchanges) : Makes allowed s s' :=
  ⟨[], by rw [h, List.append_nil], by simp⟩

/-- What is allowed by one condition is allowed by a wider one. -/
theorem Makes.mono {allowed' : Call × Outcome → Prop} (h : Makes allowed s s')
    (himp : ∀ x, allowed x → allowed' x) : Makes allowed' s s' := by
  obtain ⟨more, hmore, hallowed⟩ := h
  exact ⟨more, hmore, fun x hx => himp x (hallowed x hx)⟩

/-- The exchanges since a session are those that it had not yet made. -/
theorem exchangesSince_eq {more : List (Call × Outcome)}
    (h : s'.exchanges = s.exchanges ++ more) : s.exchangesSince s' = more := by
  rw [exchangesSince, h, List.drop_left]

/-- What was made is what is new in the journal. -/
theorem Makes.since (h : Makes allowed s s') :
    s'.exchanges = s.exchanges ++ s.exchangesSince s' ∧ ∀ x ∈ s.exchangesSince s', allowed x := by
  obtain ⟨more, hmore, hallowed⟩ := h
  rw [exchangesSince_eq hmore]
  exact ⟨hmore, hallowed⟩

/-- The exchanges that were made allow themselves. -/
theorem Makes.itself (h : Makes allowed s s') : Makes (· ∈ s.exchangesSince s') s s' :=
  ⟨s.exchangesSince s', h.since.1, fun _ hx => hx⟩

/-! ## What is no call -/

/-- Entries that are no exchanges call nothing. -/
theorem exchanges_record {entry : Entry} (h : entry.exchange? = none) (s : Session) :
    (s.record entry).exchanges = s.exchanges := by
  simp [exchanges, record, withLink, Link.record, h]

theorem exchanges_emit (s : Session) (content : Report) :
    (s.emit content).exchanges = s.exchanges := by
  have hnone : (Entry.report content).exchange? = none := rfl
  exact exchanges_record hnone s

/-- Sending a task calls nothing. -/
theorem exchanges_invoke (s : Session) (task : Task) :
    (s.invoke task).exchanges = s.exchanges := by
  unfold invoke
  dsimp only
  split
  · rfl
  · exact exchanges_note _ _

theorem exchanges_offer (s : Session) (command : Command) :
    (s.offer command).exchanges = s.exchanges := by
  unfold offer
  split
  · exact exchanges_invoke _ _
  · rfl

/-- Completing a request calls nothing, whatever its sink does. -/
theorem exchanges_complete (request : Request) (completion : Completion) (s : Session) :
    ((complete request completion).run.run s).2.exchanges = s.exchanges := by
  have hnone : (Entry.completed request completion).exchange? = none := rfl
  have hrecord := exchanges_record hnone s
  rw [run_complete, afterSink_eq]
  exact (foldl_keeps exchanges exchanges_offer _ _).trans hrecord

theorem exchanges_begun (s : Session) (task : Task) : (s.begun task).exchanges = s.exchanges := by
  unfold begun
  cases task.start? (s.isCancelled task) with
  | none => rfl
  | some start => exact exchanges_emit s _

/-- When the link grows by calls of a kind, these are made. -/
theorem makes_withLink {kind : Call → Prop} {link : Link} (h : s.link.Grows kind link) :
    Makes (fun x => kind x.1) s (s.withLink link) := exchanges_withLink h

/-! ## Turns -/

/-- Whether a session only makes calls that serve requests, with what it knows about the helper. -/
structure Serves (s s' : Session) : Prop where
  settings : s'.settings = s.settings
  probe : s'.probe = s.probe
  makes : Makes (fun x => x.1.Serves s.settings s.probe) s s'

instance : Std.Refl Serves := ⟨fun s => ⟨rfl, rfl, Std.Refl.refl s⟩⟩

instance : IsTrans Session Serves where
  trans := by
    intro s s' s'' h h'
    refine ⟨h'.settings.trans h.settings, h'.probe.trans h.probe, ?_⟩
    refine IsTrans.trans _ _ _ h.makes (h'.makes.mono fun x hx => ?_)
    rwa [h.settings, h.probe] at hx

/-- A turn that serves requests makes the calls that serve them and no others. -/
theorem makes_turn {task : Task} {rest : List Task} (h : s.queue.waiting = task :: rest)
    (served : task.isCommand = false) :
    Makes (fun x => x.1.Serves s.settings s.probe) s (s.after .turn) := by
  have hdisplays : ∀ {t : Session} {link : Link}, t.link.Grows (·.isDisplay) link →
      Serves t (t.withLink link) :=
    fun hg => ⟨rfl, rfl, (makes_withLink hg).mono fun _ hx => .inl hx⟩
  have hattempts : ∀ {t : Session} {helper : Helper} {link : Link}, t.probe.helper? = some helper →
      t.link.Grows (·.isAttempt t.settings helper) link → Serves t (t.withLink link) :=
    fun hp hg => ⟨rfl, rfl, (makes_withLink hg).mono fun _ hx => .inr ⟨_, hp, hx⟩⟩
  have hcompletes : ∀ request ∈ s.next, ∀ completion,
      Along Serves (complete request completion) := by
    intro request _ completion t
    have hreacts := reacts_complete request completion t
    exact ⟨hreacts.settings, hreacts.probe, .of_eq (exchanges_complete request completion t)⟩
  have hnotes : ∀ (t : Session) notice, Serves t (t.note notice) :=
    fun t notice => ⟨rfl, rfl, .of_eq (exchanges_note t notice)⟩
  have hturn : Serves (s.released task rest) (s.after .turn) :=
    along_turn hdisplays hattempts hcompletes hnotes h served
  exact hturn.makes

/-! ## Steps -/

theorem makes_move {s s' : Session} (move : Move s s') : Makes (fun _ => True) s s' := by
  have hask : ∀ (t : Session) context, Makes (fun _ => True) t (t.askProbe context).2 :=
    fun t context => Makes.mono (looksUp_askProbe t context) fun _ _ => trivial
  cases move with
  | reacts reacts =>
    obtain ⟨more, hmore, -⟩ := reacts.told
    refine ⟨more.filterMap Entry.exchange?, ?_, fun _ _ => trivial⟩
    rw [exchanges, hmore, List.filterMap_append]
    rfl
  | ask context => exact hask s context
  | make n => exact .of_eq rfl
  | submit request serial_eq scope_mem =>
    have hmade : Makes (fun _ => True) s { s with made := s.made + 1 } := .of_eq rfl
    have hsubmit := looksUp_submit { s with made := s.made + 1 } request
    exact IsTrans.trans _ _ _ hmade (Makes.mono hsubmit fun _ _ => trivial)

theorem makes_perform (s : Session) (step : Step) :
    Makes (fun _ => True) s (s.after (.step step)) :=
  along_perform (fun _ => .of_eq rfl) (fun _ => .of_eq (exchanges_note s _)) fun _ _ => makes_move

/-- A request made by hand calls `toString` and nothing else. -/
theorem makes_finish (request : Request) (ending : Ending) :
    Along (Makes fun x => x.1.isDisplay = true) (finish request ending) := by
  have hcompletes : ∀ completion,
      Along (Makes fun x => x.1.isDisplay = true) (complete request completion) :=
    fun completion s => .of_eq (exchanges_complete request completion s)
  exact along_finish hcompletes fun _ =>
    along_evaluateIndividually (fun hg => makes_withLink hg) hcompletes

/-- A step that is not direct makes no calls but of `toString`, and look-ups if it asks a probe. -/
theorem makes_step {step : Step} (h : step.isDirect = false) (s : Session) :
    Makes (fun x => x.1.isDisplay = true ∨ x.1.isLookUp = true ∧ step.asksProbe = true) s
      (s.after (.step step)) := by
  have hsubmission : step.isSubmission = true → step.asksProbe = true →
      Makes (fun x => x.1.isDisplay = true ∨ x.1.isLookUp = true ∧ step.asksProbe = true) s
        (s.after (.step step)) :=
    fun hs ha => Makes.mono (looksUp_submission hs s) fun _ hx => .inr ⟨hx, ha⟩
  cases step with
  | submit submission => exact hsubmission rfl rfl
  | submitRequest submission => exact hsubmission rfl rfl
  | available place => exact hsubmission rfl rfl
  | call call => cases h
  | evaluateBatch place helper values => cases h
  | invalidate index =>
    show Makes _ s (s.invalidateAt index)
    rw [invalidateAt_eq]
    exact .of_eq rfl
  | processDetached => exact .of_eq (exchanges_note s _)
  | invoke command => exact .of_eq (exchanges_offer s command)
  | probe place =>
    show Makes _ s ((withContext place _).run.run s).2
    rw [run_withContext]
    cases s.contextAt? place with
    | none => exact Std.Refl.refl s
    | some context =>
      exact (makes_withLink (Probe.ask_grows s.settings context s.spareProbe s.link)).mono
        fun _ hx => .inr ⟨hx, rfl⟩
  | request submission ending =>
    show Makes _ s ((withRequest submission _).run.run s).2
    rw [run_withRequest]
    unfold makeRequest
    cases s.contextAt? submission.place with
    | none => exact Std.Refl.refl s
    | some context =>
      have hmade : s.exchanges = { s with made := s.made + 1 }.exchanges := rfl
      exact IsTrans.trans _ _ _ (Makes.of_eq hmade.symm)
        ((makes_finish _ ending _).mono fun _ hx => .inl hx)
  | _ => exact .of_eq rfl

/-! ## Events -/

/-- The exchanges of an event were made in its steps, or they serve the requests of its turn. -/
theorem makes_after (event : Event) : Makes (fun x =>
    (∃ p ∈ s.stepsAt event, x ∈ p.1.exchangesSince (p.1.after (.step p.2))) ∨
      event = .turn ∧ s.servedNext?.isSome = true ∧ x.1.Serves s.settings s.probe)
    s (s.after event) := by
  cases event with
  | step step =>
    have hstep := (makes_perform s step).itself
    exact hstep.mono fun x hx => .inl ⟨(s, step), List.mem_singleton.2 rfl, hx⟩
  | turn =>
    cases hw : s.queue.waiting with
    | nil => exact .of_eq (by rw [after_turn_of_nil hw])
    | cons task rest =>
      by_cases hserved : task.isCommand = false
      · obtain ⟨scope, hscope⟩ := Task.isCommand_eq_false_iff.1 hserved
        have hnext : s.servedNext?.isSome = true := by simp [servedNext?, hw, hscope]
        exact (makes_turn hw hserved).mono fun x hx => .inr ⟨rfl, hnext, hx⟩
      · cases task with
        | command command scope =>
          -- the notices of its start and its end are no calls, so all of them are made in its steps
          have hbegun := exchanges_begun (s.taken rest) (.command command scope)
          have hsteps : Makes (fun x => ∃ p ∈ s.stepsAt .turn,
              x ∈ p.1.exchangesSince (p.1.after (.step p.2)))
              ((s.taken rest).begun (.command command scope)) (s.after .turn) := by
            refine along_begun hw (fun t _ _ => .of_eq (exchanges_note t _)) fun p hp name => ?_
            refine along_stepped ?_ fun t _ => .of_eq (exchanges_emit t _)
            exact (makes_perform p.1 p.2).itself.mono fun x hx => ⟨p, hp, hx⟩
          have htaken := IsTrans.trans _ _ _ (Makes.of_eq hbegun) hsteps
          exact Makes.mono htaken fun x hx => .inl hx
        | flush context => exact absurd rfl hserved
        | individual request => exact absurd rfl hserved
  | dropSender =>
    refine .of_eq ?_
    simp only [after, dropOwnSender]
    split <;> rfl
  | dropQueue => exact .of_eq rfl

end Session

end BatchStringify
