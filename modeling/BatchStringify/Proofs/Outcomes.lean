import BatchStringify.Proofs.TurnCalls

/-!
# What requests come to

As long as nothing panics, each turn completes the requests of its task that are due, and the requests that are
completed besides were never accepted: the embedder made them and brought them to their end by hand. So the
completions of accepted requests are the outcomes of the turns, no more and no less (`completed_iff`).
-/

namespace BatchStringify

namespace Ledger

variable {l l' : Ledger} {past : List (Request × Bool)} {known : List (Request × Completion)}

/-- Whether each completion of a request that was accepted is one of those that are known. -/
def Explained (known : List (Request × Completion)) (l : Ledger) : Prop :=
  ∀ p ∈ l.completed, p.1 ∈ l.accepted → p ∈ known

/-- Accepting a request completes nothing. -/
theorem Explained.accept (h : l.Accounts past) (he : l.Explained known) {request : Request}
    (serial_eq : request.serial = l.made) (accepted : l'.accepted = l.accepted ++ [request])
    (completed : l'.completed = l.completed) : l'.Explained known := by
  intro p hp hr
  rw [completed] at hp
  rw [accepted] at hr
  rcases List.mem_append.1 hr with hr | hr
  · exact he p hp hr
  · -- a new request is newer than all that was completed
    have hlt := h.completed_lt p hp
    rw [List.mem_singleton.1 hr, serial_eq] at hlt
    exact absurd hlt (Nat.lt_irrefl _)

/-- A step of the ledger explains as much as before: what is completed by hand was never accepted. -/
theorem Explained.step (step : Ledger.Step l l') (h : l.Accounts past)
    (he : l.Explained known) : l'.Explained known := by
  cases step with
  | suspend scope id_eq => exact he
  | byHand n done serials =>
    intro p hp hr
    rcases List.mem_append.1 hp with hp | hp
    · exact he p hp hr
    · -- what is completed by hand is newer than all that was accepted
      have hmade := serials.subset (List.mem_map.2 ⟨p, hp, rfl⟩)
      rw [List.mem_range'_1] at hmade
      have hlt : p.1.serial < l.made := h.accepted_lt p.1 hr
      omega
  | single request serial_eq scope_mem => exact he.accept h serial_eq rfl rfl
  | join request serial_eq scope_mem isObject =>
    exact he.accept h serial_eq (accepted_join _ request) (completed_join _ request)

/-- So do several steps. -/
theorem Explained.steps (steps : Relation.ReflTransGen Ledger.Step l l') (h : l.Accounts past)
    (he : l.Explained known) : l'.Explained known := by
  have hboth : l'.Accounts past ∧ l'.Explained known :=
    steps_preserve (P := fun l => l.Accounts past ∧ l.Explained known)
      (fun _ _ hstep hl => ⟨hl.1.step hstep, hl.2.step hstep hl.1⟩) steps ⟨h, he⟩
  exact hboth.2

/-- Such steps note no panic. -/
theorem panics_of_steps (steps : Relation.ReflTransGen Ledger.Step l l') : l'.panics = l.panics := by
  refine steps_preserve (P := fun l' => l'.panics = l.panics) (fun l' l'' hstep hl' => ?_) steps rfl
  rw [← hl']
  cases hstep with
  | join request serial_eq scope_mem isObject =>
    unfold join
    dsimp only
    split <;> rfl
  | _ => rfl

end Ledger

namespace Session

variable {s : Session} {past : List (Request × Bool)} {known : List (Request × Completion)}

/-- A turn with a command takes steps, and may note a panic at its end. -/
theorem turn_of_command {command : Command} {scope : Option Scope} {rest : List Task}
    (h : s.queue.waiting = .command command scope :: rest) :
    ∃ l more, Relation.ReflTransGen Ledger.Step s.ledger l ∧
      (s.after .turn).ledger = l.panic more := by
  have hleads := leads_act_command command scope (s.taken rest) (s.taken rest)
  rw [Leads, ledger_taken_command h] at hleads
  rw [after_turn_of_cons h, ledger_execute]
  exact ⟨_, _, hleads, rfl⟩

/-- A panic that was noted stays noted. -/
theorem neverPanicked_of_after {event : Event} (h : (s.after event).NeverPanicked) :
    s.NeverPanicked := by
  rw [neverPanicked_iff] at h ⊢
  cases event with
  | step step => rwa [← Ledger.panics_of_steps (leads_perform step s)]
  | turn =>
    have hturned := turned s
    generalize (s.after .turn).ledger = l at h hturned
    cases hturned with
    | idle next_eq => exact h
    | command next_eq leads more =>
      rw [← Ledger.panics_of_steps leads]
      exact (List.append_eq_nil_iff.1 h).1
    | carried takes done more first cancelled finished =>
      obtain ⟨-, -, -, -, hpanics⟩ := takes.keeps
      rw [← hpanics]
      exact (List.append_eq_nil_iff.1 h).1
  | dropSender => rwa [show (s.after .dropSender).ledger = s.ledger from s.ledger_dropOwnSender] at h
  | dropQueue => exact h

/-- A run without a panic began without one. -/
theorem neverPanicked_of_play {events : List Event} (h : (s.play events).NeverPanicked) :
    s.NeverPanicked := by
  induction events generalizing s with
  | nil => exact h
  | cons event rest ih => exact neverPanicked_of_after (ih h)

/-! ## Events -/

/-- What the requests that are served in an event come to. -/
def outcomeAt (s : Session) : Event → List (Request × Completion)
  | .turn => s.nextOutcome
  | _ => []

theorem nextOutcome_of_unserved (h : s.servedNext? = none) : s.nextOutcome = [] := by
  rw [nextOutcome, nextDue_of_unserved h, outcomeOf_nil]

/-- In an event requests are completed by hand, or those that are due. -/
theorem completions_after {event : Event} (calm : (s.after event).NeverPanicked) :
    ∃ byHand, (s.after event).completions = s.completions ++ (byHand ++ s.outcomeAt event) := by
  have hsteps : ∀ {l : Ledger}, Relation.ReflTransGen Ledger.Step s.ledger l →
      ∃ byHand, l.completed = s.completions ++ (byHand ++ []) := by
    intro l hl
    obtain ⟨-, done, hdone, -⟩ := Ledger.steps_complete hl
    exact ⟨done, by rw [List.append_nil]; exact hdone⟩
  cases event with
  | step step => exact hsteps (leads_perform step s)
  | turn =>
    show ∃ byHand, _ = s.completions ++ (byHand ++ s.nextOutcome)
    cases hw : s.queue.waiting with
    | nil =>
      rw [nextOutcome_of_unserved (by simp [servedNext?, hw]), after_turn_of_nil hw]
      exact ⟨[], (List.append_nil _).symm⟩
    | cons task rest =>
      by_cases hserved : task.isCommand = false
      · exact ⟨[], (serviced_turn hw hserved calm).completions⟩
      · cases task with
        | flush context => exact absurd rfl hserved
        | individual request => exact absurd rfl hserved
        | command command scope =>
          obtain ⟨l, more, hl, hafter⟩ := turn_of_command hw
          rw [nextOutcome_of_unserved (by simp [servedNext?, hw, Task.servedScope?])]
          obtain ⟨byHand, hbyHand⟩ := hsteps hl
          exact ⟨byHand, (congrArg Ledger.completed hafter).trans hbyHand⟩
  | dropSender =>
    refine ⟨[], ?_⟩
    rw [show (s.after .dropSender).completions = s.completions from
      congrArg Ledger.completed s.ledger_dropOwnSender]
    exact (List.append_nil _).symm
  | dropQueue => exact ⟨[], (List.append_nil _).symm⟩

/-- After an event without a panic the completions are explained by what the event came to besides. -/
theorem explained_after {event : Event} (h : s.ledger.Accounts past)
    (he : s.ledger.Explained known) (calm : (s.after event).NeverPanicked) :
    (s.after event).ledger.Explained (known ++ s.outcomeAt event) := by
  have hmore : ∀ {l : Ledger}, l.Explained known →
      l.Explained (known ++ s.outcomeAt event) :=
    fun hl p hp hr => List.mem_append_left _ (hl p hp hr)
  cases event with
  | step step => exact hmore (he.steps (leads_perform step s) h)
  | turn =>
    cases hw : s.queue.waiting with
    | nil =>
      rw [after_turn_of_nil hw]
      exact hmore he
    | cons task rest =>
      -- a task that serves requests adds its outcome; a command completes only what it makes itself
      by_cases hserved : task.isCommand = false
      · have haccepted : (s.after .turn).accepted = s.accepted := (reacts_turn hw hserved).accepted
        have hcompletions := (serviced_turn hw hserved calm).completions
        intro p hp hr
        replace hp : p ∈ (s.after .turn).completions := hp
        replace hr : p.1 ∈ (s.after .turn).accepted := hr
        rw [hcompletions] at hp
        rw [haccepted] at hr
        rcases List.mem_append.1 hp with hp | hp
        · exact List.mem_append_left _ (he p hp hr)
        · exact List.mem_append_right _ hp
      · cases task with
        | flush context => exact absurd rfl hserved
        | individual request => exact absurd rfl hserved
        | command command scope =>
          obtain ⟨l, more, hl, hafter⟩ := turn_of_command hw
          rw [hafter]
          have hl' : l.Explained known := he.steps hl h
          exact hmore (l := l.panic more) hl'
  | dropSender =>
    rw [show (s.after .dropSender).ledger = s.ledger from s.ledger_dropOwnSender]
    exact hmore he
  | dropQueue => exact hmore he

/-! ## Runs -/

/-- What the requests that are served in a run come to, turn by turn. -/
def outcomes (s : Session) (events : List Event) : List (Request × Completion) :=
  (s.turns events).flatMap nextOutcome

/-- What a run comes to is what its events come to in order. -/
theorem outcomes_cons (s : Session) (event : Event) (rest : List Event) :
    s.outcomes (event :: rest) = s.outcomeAt event ++ (s.after event).outcomes rest := by
  cases event with
  | turn => exact List.flatMap_cons
  | _ => rfl

theorem outcomes_sublist {events : List Event} (calm : (s.play events).NeverPanicked) :
    (s.completions ++ s.outcomes events).Sublist (s.play events).completions := by
  induction events generalizing s with
  | nil => exact (List.append_nil _).symm ▸ List.Sublist.refl _
  | cons event rest ih =>
    have hcalm : ((s.after event).play rest).NeverPanicked := calm
    obtain ⟨byHand, hafter⟩ := completions_after (neverPanicked_of_play hcalm)
    have hrest := ih (s := s.after event) calm
    rw [hafter, List.append_assoc, List.append_assoc] at hrest
    rw [outcomes_cons]
    exact ((List.sublist_append_right byHand _).append_left _).trans hrest

/-- So the completions of a run are explained by what it came to. -/
theorem explained_play {events : List Event} (h : s.ledger.Accounts past) (hs : s.ledger.Sound)
    (he : s.ledger.Explained known) (calm : (s.play events).NeverPanicked) :
    (s.play events).ledger.Explained (known ++ s.outcomes events) := by
  induction events generalizing s past known with
  | nil => exact (List.append_nil known).symm ▸ he
  | cons event rest ih =>
    have hcalm : ((s.after event).play rest).NeverPanicked := calm
    have hafter := explained_after h he (neverPanicked_of_play hcalm)
    have hrest := ih (accounts_after event h hs) (sound_after event hs) hafter calm
    rwa [List.append_assoc, ← outcomes_cons] at hrest

variable {debuggee : Debuggee} {settings : DebuggerSettings} {connection : Connection}
  {events : List Event}

/-- A request that a turn carries was accepted. -/
theorem accepted_of_next {t : Session} (ht : t ∈ (start debuggee settings connection).turns events)
    {request : Request} (hr : request ∈ t.next) :
    request ∈ ((start debuggee settings connection).play events).accepted := by
  have ha := accounts_play events (accounts_start debuggee settings connection)
    (sound_start debuggee settings connection)
  refine ha.owed.subset (List.mem_append_left _ (List.mem_map.2
    ⟨(request, t.suspensions.isValid request.context.scope), ?_, rfl⟩))
  exact List.mem_flatMap.2 ⟨t, ht, List.mem_map.2 ⟨request, hr, rfl⟩⟩

/-- What is due next is what the next task serves. -/
theorem mem_next_of_nextDue {request : Request} (hr : request ∈ s.nextDue) : request ∈ s.next := by
  unfold nextDue at hr
  cases hw : s.queue.waiting with
  | nil => simp [hw] at hr
  | cons task rest =>
    rw [hw] at hr
    dsimp only at hr
    split at hr
    · cases hr
    · rwa [next_of_cons hw]

/-- The requests that come to an outcome are those that are evaluated on their own and those that a reply
answers for. -/
theorem map_fst_nextOutcome (s : Session) :
    s.nextOutcome.map (·.1) = s.nextAlone ++ s.nextReplied.map (·.1) := by
  rw [nextOutcome, outcomeOf, List.map_append, map_fst_alone, List.map_map]
  rfl

theorem mem_nextDue_of_nextOutcome {p : Request × Completion} (hp : p ∈ s.nextOutcome) :
    p.1 ∈ s.nextDue := by
  unfold nextOutcome outcomeOf aloneOf repliedOf at hp
  rcases List.mem_append.1 hp with hp | hp
  · obtain ⟨request, hr, rfl⟩ := List.mem_map.1 hp
    split at hr
    · cases hr
    · exact hr
  · obtain ⟨q, hq, rfl⟩ := List.mem_map.1 hp
    exact (List.of_mem_zip hq).1

/-- The completions of accepted requests are the outcomes of the turns. -/
theorem completed_iff (calm : ((start debuggee settings connection).play events).NeverPanicked)
    (p : Request × Completion) :
    p ∈ ((start debuggee settings connection).play events).completions ∧
        p.1 ∈ ((start debuggee settings connection).play events).accepted ↔
      p ∈ (start debuggee settings connection).outcomes events := by
  constructor
  · rintro ⟨hp, hr⟩
    have hstart : (start debuggee settings connection).ledger.Explained [] := fun _ hp => by cases hp
    exact explained_play (accounts_start debuggee settings connection)
      (sound_start debuggee settings connection) hstart calm p hp hr
  · intro hp
    refine ⟨(outcomes_sublist calm).subset (List.mem_append_right _ hp), ?_⟩
    obtain ⟨t, ht, hp⟩ := List.mem_flatMap.1 hp
    exact accepted_of_next ht (mem_next_of_nextDue (mem_nextDue_of_nextOutcome hp))

/-- No request comes to two outcomes. -/
theorem outcomes_nodup (calm : ((start debuggee settings connection).play events).NeverPanicked) :
    (((start debuggee settings connection).outcomes events).map (·.1.serial)).Nodup := by
  have ha := accounts_play events (accounts_start debuggee settings connection)
    (sound_start debuggee settings connection)
  have hsub := (List.sublist_append_right _ _).trans (outcomes_sublist calm)
  exact (hsub.map (·.1.serial)).nodup ha.completed_nodup

end Session

end BatchStringify
