import BatchStringify.Proofs.Reactions

/-!
# Moves

Every step of a script is one of three things. It makes one call about scopes, or it reports the end of
the debuggee, or it comes down to a few moves: the session reacts, asks the probe, counts requests as made
or takes in a new request (`perform_cases`). Commands take their steps one after the other, and a run is
known by the steps that were taken in it (`steps`), each with the session right before it. So a relation
that holds for moves and for these steps holds along commands and turns.
-/

namespace BatchStringify.Session

/-- One thing that a session does in the course of a step. -/
inductive Move : Session → Session → Prop where
  | reacts {s s' : Session} (reacts : Reacts s s') : Move s s'
  | ask (s : Session) (context : Context) : Move s (s.askProbe context).2
  | make (s : Session) (n : Nat) : Move s { s with made := s.made + n }
  /-- A request with the next number is submitted from a known scope. -/
  | submit (s : Session) (request : Request) (serial_eq : request.serial = s.made)
    (scope_mem : request.context.scope ∈ s.suspensions.scopes) :
    Move s (submit { s with made := s.made + 1 } request)

/-- Whether a session comes from another one by moves. -/
def Moves : Session → Session → Prop := Relation.ReflTransGen Move

instance : Std.Refl Moves := ⟨fun _ => .refl⟩

/-- A reaction is one move. -/
theorem Moves.of_reacts {s s' : Session} (h : Reacts s s') : Moves s s' := .single (.reacts h)

/-- A relation that holds for every move holds along moves. -/
theorem Moves.lift {R : Session → Session → Prop} [Std.Refl R] [IsTrans Session R]
    (move : ∀ s s', Move s s' → R s s') {s s' : Session} (h : Moves s s') : R s s' := by
  induction h with
  | refl => exact Std.Refl.refl s
  | tail _ hmove ih => exact IsTrans.trans _ _ _ ih (move _ _ hmove)

/-! ## Steps -/

/-- A step with a request moves if it does so once the request was made. -/
theorem moves_withRequest (submission : Submission) {work : Request → Action Result}
    (h : ∀ request s, request.serial = s.made → request.context.scope ∈ s.suspensions.scopes →
      Moves s ((work request).run.run { s with made := s.made + 1 }).2) :
    Along Moves (withRequest submission work) := by
  intro s
  rw [run_withRequest]
  unfold makeRequest
  cases hc : s.contextAt? submission.place with
  | none => exact .refl
  | some context => exact h _ s rfl (scope_mem_of_contextAt? hc)

/-- A submission is one move, with the next number and from a known scope. -/
theorem moves_submit (submission : Submission) :
    Along Moves (withRequest submission fun request => changing (·.submit request)) :=
  moves_withRequest submission fun request s hserial hscope =>
    .single (.submit s request hserial hscope)

/-- A request made by hand is completed or evaluated, and the session only reacts. -/
theorem reacts_finish (request : Request) (ending : Ending) :
    Along Reacts (finish request ending) :=
  along_finish (reacts_complete request) fun _ => reacts_evaluateIndividually request

/-- With the request that is made for it this is a move. -/
theorem moves_finish (submission : Submission) (ending : Ending) :
    Along Moves (withRequest submission (finish · ending)) := by
  refine moves_withRequest submission fun request s _ _ => ?_
  have hmake : Moves s { s with made := s.made + 1 } := .single (.make s 1)
  exact hmake.trans (Moves.of_reacts (reacts_finish request ending _))

theorem reacts_batchByHand (context : Context) (helper : Helper) (values : List (String × Value))
    (s : Session) : Reacts { s with made := s.made + values.length }
      ((batchByHand context helper values).run.run s).2 := by
  have hbatch := reacts_evaluateBatch helper context (s.makePlain context values).1
    (s.makePlain context values).2
  rw [run_batchByHand]
  rcases hr : (evaluateBatch helper context (s.makePlain context values).1).run.run
    (s.makePlain context values).2 with ⟨payload | ⟨evaluated, left⟩, s'⟩
  · rw [hr] at hbatch
    exact hbatch
  · rw [hr] at hbatch
    exact hbatch

/-- A batch made by hand takes numbers for its requests, and then the session reacts. -/
theorem moves_batchByHand (context : Context) (helper : Helper) (values : List (String × Value)) :
    Along Moves (batchByHand context helper values) := by
  intro s
  have hmake : Moves s { s with made := s.made + values.length } := .single (.make s values.length)
  exact hmake.trans (Moves.of_reacts (reacts_batchByHand context helper values s))

/-- A call of the embedder changes the debuggee, which has no part in this. -/
theorem reacts_callDirectly (call : Call) : Along Reacts (callDirectly call) := by
  intro s
  have hg : s.link.Grows (fun _ => True) (s.link.perform call).2 := s.link.perform_grows trivial
  show Reacts s (callDirectly call s).2
  unfold callDirectly
  rcases hr : s.link.perform call with ⟨payload | outcome, link⟩
  · rw [hr] at hg
    exact reacts_withLink hg
  · rw [hr] at hg
    exact reacts_withLink hg

/-- Most steps come down to moves, also if they panic. -/
theorem moves_perform {step : Step} (calls : step.scopeCalls = [])
    (present : step ≠ .processDetached) : Along Moves (perform step) := by
  cases step with
  | attach => cases calls
  | suspend attachment thread => cases calls
  | invalidate index => cases calls
  | detach attachment => cases calls
  | processDetached => exact absurd rfl present
  | submit submission => exact moves_submit submission
  | submitRequest submission => exact moves_submit submission
  | available place =>
    exact along_withContext place fun context s => .single (.ask s context)
  | invoke command => exact fun s => .of_reacts (reacts_offer s command)
  | request submission ending => exact moves_finish submission ending
  | evaluateBatch place helper values =>
    exact along_withContext place fun context => moves_batchByHand context helper values
  | probe place =>
    refine along_withContext place fun context s => ?_
    have hg := Probe.ask_grows s.settings context s.spareProbe s.link
    have hspare : Moves s { s with spareProbe := (s.spareProbe.ask s.settings context s.link).1 } :=
      .of_reacts (reacts_debuggee s s.link.debuggee s.link.releaseFault _)
    exact hspare.trans (Moves.of_reacts (reacts_withLink hg))
  | probeDetach => exact fun s => .of_reacts (reacts_debuggee s _ _ _)
  | defineClass name => exact fun s => .of_reacts (reacts_debuggee s _ _ _)
  | defineMethod owner name signature => exact fun s => .of_reacts (reacts_debuggee s _ _ _)
  | setDisplay id outcome => exact fun s => .of_reacts (reacts_debuggee s _ _ _)
  | fail operation error => exact fun s => .of_reacts (reacts_debuggee s _ _ _)
  | failRelease error => exact fun s => .of_reacts (reacts_debuggee s _ _ _)
  | setHandler handler => exact fun s => .of_reacts (reacts_debuggee s _ _ _)
  | call call => exact fun s => .of_reacts (reacts_callDirectly call s)
  | panic payload => exact .of_throw payload
  | _ => exact fun s => .refl

/-- What a step can be, with all that it does. -/
theorem perform_cases (step : Step) (s : Session) :
    (∃ c result, step.scopeCalls = [c] ∧ (perform step).run.run s =
      (.ok result, { s with suspensions := s.suspensions.call c })) ∨
    (step = .processDetached ∧ (perform step).run.run s = (.ok .done, s.processDetached)) ∨
    (step.scopeCalls = [] ∧ step ≠ .processDetached ∧ Moves s ((perform step).run.run s).2) := by
  cases step with
  | attach => exact .inl ⟨_, _, rfl, rfl⟩
  | suspend attachment thread => exact .inl ⟨_, _, rfl, rfl⟩
  | invalidate index => exact .inl ⟨_, .done, rfl, by rw [← invalidateAt_eq]; rfl⟩
  | detach attachment => exact .inl ⟨_, _, rfl, rfl⟩
  | processDetached => exact .inr (.inl ⟨rfl, rfl⟩)
  | _ => exact .inr (.inr ⟨rfl, (fun h => by cases h), moves_perform rfl (fun h => by cases h) s⟩)

/-! ## Steps of commands -/

/-- The session after a step of a command, which is reported unless it panics. -/
def stepped (s : Session) (command : String) (step : Step) : Session :=
  match (perform step).run.run s with
  | (.ok result, s') => s'.emit (.performed command step result)
  | (.error _, s') => s'

/-- The steps that a command takes, each with the session right before it. A panic ends them. -/
def stepsIn (command : String) : List Step → Session → List (Session × Step)
  | [], _ => []
  | step :: rest, s => (s, step) :: match (perform step).run.run s with
    | (.ok result, s') => stepsIn command rest (s'.emit (.performed command step result))
    | (.error _, _) => []

/-- The session in which a task that was taken begins. -/
def begun (s : Session) (task : Task) : Session :=
  (task.start? (s.isCancelled task)).elim s fun (name, cancelled) =>
    s.emit (.started name cancelled)

/-- The steps that are taken when a task is executed. -/
def stepsOf (s : Session) : Task → List (Session × Step)
  | .command command scope =>
    if s.isCancelled (.command command scope) then
      match command.style with
      | .ordinary =>
        stepsIn command.name command.cancelled (s.emit (.started command.name true))
      | _ => []
    else stepsIn command.name command.run (s.emit (.started command.name false))
  | _ => []

/-- The steps that are taken in an event. -/
def stepsAt (s : Session) : Event → List (Session × Step)
  | .step step => [(s, step)]
  | .turn =>
    match s.queue.waiting with
    | [] => []
    | task :: rest => (s.taken rest).stepsOf task
  | _ => []

/-- The steps that are taken in a run, each with the session right before it. -/
def steps (s : Session) : List Event → List (Session × Step)
  | [] => []
  | event :: rest => s.stepsAt event ++ (s.after event).steps rest

/-- The steps of a command are performed and reported one after the other, up to the first one that panics. -/
theorem run_performAll_cons (command : String) (step : Step) (rest : List Step) (s : Session) :
    (performAll command (step :: rest)).run.run s = match (perform step).run.run s with
      | (.ok result, s') =>
        (performAll command rest).run.run (s'.emit (.performed command step result))
      | (.error payload, s') => (.error payload, s') := by
  have hcons : (performAll command (step :: rest)).run.run s = _ := run_bind
    (perform step >>= fun result =>
      (modify fun t : Session => t.emit (.performed command step result) : Action PUnit))
    (fun _ => performAll command rest) s
  rw [hcons, run_bind]
  rcases (perform step).run.run s with ⟨_ | _, _⟩ <;> rfl

/-- In its turn a command begins, takes its steps, of which it may have none, and may note a panic. -/
theorem after_turn_of_command {command : Command} {scope : Option Scope} {rest : List Task}
    {s : Session} (waiting : s.queue.waiting = .command command scope :: rest) :
    let begun := (s.taken rest).begun (.command command scope)
    ∃ steps, s.stepsAt .turn = stepsIn command.name steps begun ∧
      (s.after .turn = ((performAll command.name steps).run.run begun).2 ∨
        ∃ cancelled payload, s.after .turn =
          ((performAll command.name steps).run.run begun).2.note
            (.commandPanicked cancelled payload)) := by
  intro begun
  obtain ⟨steps, hsteps, hact⟩ : ∃ steps, s.stepsAt .turn = stepsIn command.name steps begun ∧
      ((s.taken rest).act (.command command scope)).run.run (s.taken rest) =
        (performAll command.name steps).run.run begun := by
    simp only [stepsAt, waiting, stepsOf, act, begun, Session.begun]
    by_cases hc : (s.taken rest).isCancelled (.command command scope)
    · rw [if_pos hc, if_pos hc, cancel, hc]
      simp only [Task.start?, if_true]
      cases command.style with
      | ordinary => exact ⟨command.cancelled, rfl, rfl⟩
      | unbound => exact ⟨[], rfl, rfl⟩
      | silent => exact ⟨[], rfl, rfl⟩
    · rw [if_neg hc, if_neg hc, Bool.eq_false_iff.2 hc]
      exact ⟨command.run, rfl, rfl⟩
  refine ⟨steps, hsteps, ?_⟩
  rw [after_turn_of_cons waiting]
  unfold execute
  unfold act at hact
  dsimp only
  rw [hact]
  rcases (performAll command.name steps).run.run begun with ⟨payload | _, s'⟩
  · exact .inr ⟨_, payload, rfl⟩
  · exact .inl rfl

section Along

variable {R : Session → Session → Prop} [Std.Refl R] [IsTrans Session R]

/-- A step goes along a relation that holds for its call about scopes, for the end of the debuggee if
that is what it reports, and for moves. -/
theorem along_perform {step : Step} {s : Session}
    (call : ∀ c, R s { s with suspensions := s.suspensions.call c })
    (detached : step = .processDetached → R s s.processDetached)
    (move : ∀ t t', Move t t' → R t t') : R s ((perform step).run.run s).2 := by
  rcases perform_cases step s with ⟨c, result, -, hr⟩ | ⟨rfl, hr⟩ | ⟨-, -, hmoves⟩
  · rw [hr]
    exact call c
  · rw [hr]
    exact detached rfl
  · exact hmoves.lift move

omit [Std.Refl R] in
/-- The report of a step comes after it and changes nothing else. -/
theorem along_stepped {step : Step} {s : Session} {command : String}
    (h : R s ((perform step).run.run s).2)
    (emit : ∀ t result, R t (t.emit (.performed command step result))) :
    R s (s.stepped command step) := by
  unfold stepped
  rcases hr : (perform step).run.run s with ⟨payload | result, s'⟩
  · rw [hr] at h
    exact h
  · rw [hr] at h
    exact IsTrans.trans _ _ _ h (emit _ _)

omit [Std.Refl R] in
/-- A submission goes along a relation that holds for its pieces. -/
theorem along_submit (note : ∀ s notice, R s (s.note notice))
    (record : ∀ s request, R s (s.record (.accepted request)))
    (ask : ∀ s context, R s (s.askProbe context).2) (invoke : ∀ s task, R s (s.invoke task))
    (put : ∀ s pending, R s { s with pending := pending }) (s : Session) (request : Request) :
    R s (s.submit request) := by
  have hjoin : ∀ t : Session, R t (t.join request) := by
    intro t
    unfold join
    dsimp only
    split
    · exact put t _
    · exact IsTrans.trans _ _ _ (put t _) (invoke _ _)
  by_cases hs : s.queue.hasSender
  · rw [submit_of_hasSender hs]
    refine IsTrans.trans _ _ _ (record s request) ?_
    have hask := ask (s.record (.accepted request)) request.context
    rcases (s.record (.accepted request)).accept_cases request with
      ⟨s', rfl | rfl, ha⟩ | ⟨-, -, ha⟩ <;> rw [ha]
    · exact invoke _ _
    · exact IsTrans.trans _ _ _ hask (invoke _ _)
    · exact IsTrans.trans _ _ _ hask (hjoin _)
  · rw [submit, if_neg hs]
    exact note s _

/-- They lead along a relation if each of them does. -/
theorem along_performAll {command : String} {steps : List Step} {s : Session}
    (h : ∀ p ∈ stepsIn command steps s, R p.1 (p.1.stepped command p.2)) :
    R s ((performAll command steps).run.run s).2 := by
  induction steps generalizing s with
  | nil => exact Std.Refl.refl s
  | cons step rest ih =>
    have hfirst := h (s, step) List.mem_cons_self
    rw [run_performAll_cons]
    simp only [stepped] at hfirst
    simp only [stepsIn] at h
    rcases hr : (perform step).run.run s with ⟨payload | result, s'⟩
    · rw [hr] at hfirst
      exact hfirst
    · rw [hr] at hfirst h
      exact IsTrans.trans _ _ _ hfirst (ih fun p hp => h p (List.mem_cons_of_mem _ hp))

/-- What a command does once it has begun goes along a relation if each of its steps does. -/
theorem along_begun {command : Command} {scope : Option Scope} {rest : List Task}
    {s : Session} (waiting : s.queue.waiting = .command command scope :: rest)
    (panicked : ∀ t cancelled payload, R t (t.note (.commandPanicked cancelled payload)))
    (h : ∀ p ∈ s.stepsAt .turn, ∀ name, R p.1 (p.1.stepped name p.2)) :
    R ((s.taken rest).begun (.command command scope)) (s.after .turn) := by
  obtain ⟨steps, hsteps, hafter⟩ := after_turn_of_command waiting
  rw [hsteps] at h
  have hall := along_performAll fun p hp => h p hp command.name
  rcases hafter with hafter | ⟨cancelled, payload, hafter⟩ <;> rw [hafter]
  · exact hall
  · exact IsTrans.trans _ _ _ hall (panicked _ _ _)

/-- The turn of a command goes along a relation if each of its steps does. -/
theorem along_turn_command {command : Command} {scope : Option Scope} {rest : List Task}
    {s : Session} (waiting : s.queue.waiting = .command command scope :: rest)
    (started : ∀ t name cancelled, R t (t.emit (.started name cancelled)))
    (panicked : ∀ t cancelled payload, R t (t.note (.commandPanicked cancelled payload)))
    (h : ∀ p ∈ s.stepsAt .turn, ∀ name, R p.1 (p.1.stepped name p.2)) :
    R (s.taken rest) (s.after .turn) := by
  refine IsTrans.trans _ _ _ ?_ (along_begun waiting panicked h)
  unfold begun
  cases Task.start? _ _ with
  | none => exact Std.Refl.refl _
  | some start => exact started _ _ _

end Along

/-! ## The queue -/

/-- A submission does no more to the queue than sending a task. -/
theorem enqueues_submit (s : Session) (request : Request) : Enqueues s (s.submit request) := by
  have hrecord : ∀ (t : Session) (r : Request), Enqueues t (t.record (.accepted r)) := by
    intro t r
    have hnone : (Entry.accepted r).started? = none := rfl
    exact enqueues_record hnone t
  exact along_submit enqueues_note hrecord enqueues_askProbe enqueues_invoke
    (fun _ _ => .of_eq rfl rfl) s request

/-- Nor does any other move. -/
theorem enqueues_move {s s' : Session} (move : Move s s') : Enqueues s s' := by
  cases move with
  | reacts reacts => exact reacts.enqueues
  | ask context => exact enqueues_askProbe s context
  | make n => exact .of_eq rfl rfl
  | submit request serial_eq scope_mem =>
    have hmade : Enqueues s { s with made := s.made + 1 } := .of_eq rfl rfl
    exact IsTrans.trans _ _ _ hmade (enqueues_submit _ request)

/-- So a step only sends. -/
theorem enqueues_perform (s : Session) (step : Step) : Enqueues s (s.after (.step step)) := by
  refine along_perform (fun _ => .of_eq rfl rfl) (fun _ => ?_) fun _ _ => enqueues_move
  have hnote := enqueues_note s .debuggeeDetached
  exact ⟨hnote.queue, hnote.starts⟩

/-- Its report is no task. -/
theorem enqueues_stepped (s : Session) (step : Step) (command : String) :
    Enqueues s (s.stepped command step) := by
  refine along_stepped (enqueues_perform s step) fun t result => ?_
  have hnone : (Entry.report (.performed command step result)).started? = none := rfl
  exact enqueues_record hnone t

/-- Whatever a turn does, also if it panics, it takes its task, which may say that it is started, and does
nothing else with the queue but to send to it. -/
theorem enqueues_turn {task : Task} {rest : List Task} {s : Session}
    (h : s.queue.waiting = task :: rest) :
    Enqueues ((s.taken rest).begun task) (s.after .turn) := by
  cases task with
  | command command scope =>
    exact along_begun h (fun t _ _ => enqueues_note t _) fun p _ name =>
      enqueues_stepped p.1 p.2 name
  | flush context =>
    have hreleased : Enqueues (s.taken rest) (s.released (.flush context) rest) := .of_eq rfl rfl
    exact IsTrans.trans _ _ _ hreleased (reacts_turn h rfl).enqueues
  | individual request => exact (reacts_turn h rfl).enqueues

@[simp] theorem queue_begun (s : Session) (task : Task) : (s.begun task).queue = s.queue := by
  unfold begun
  cases Task.start? _ _ <;> rfl

/-- Whether the queue has only grown, at its end. -/
structure Extends (s s' : Session) : Prop where
  isOpen : s'.queue.isOpen = s.queue.isOpen
  waiting : s.queue.waiting <+: s'.queue.waiting

/-- What was sent stays sent, and what waits stays in front. -/
theorem Enqueues.extends {s s' : Session} (h : Enqueues s s') : Extends s s' := by
  obtain ⟨sent, hsent⟩ := h.queue
  rw [CommandQueue.foldl_send] at hsent
  refine ⟨by rw [hsent], ?_⟩
  rw [hsent]
  dsimp only
  split
  · exact List.prefix_append _ _
  · exact List.prefix_refl _

/-- All the tasks behind the one that a turn takes go on waiting, in their order and in front of what is sent
in the meantime. -/
theorem extends_turn {task : Task} {rest : List Task} {s : Session}
    (h : s.queue.waiting = task :: rest) : Extends (s.taken rest) (s.after .turn) := by
  have hextends := (enqueues_turn h).extends
  exact ⟨by rw [hextends.isOpen, queue_begun], by simpa using hextends.waiting⟩

/-- No turn opens or closes the queue. -/
theorem isOpen_turn (s : Session) : (s.after .turn).queue.isOpen = s.queue.isOpen := by
  cases h : s.queue.waiting with
  | nil => rw [after_turn_of_nil h]
  | cons task rest => exact (extends_turn h).isOpen

end BatchStringify.Session
