import BatchStringify.Proofs.Exhaustion
import BatchStringify.Proofs.Moves

/-!
# Conservation of commands

Every command that is sent is executed, or it waits, or it was lost with the receiving end of the queue, and
the three come in the order in which the commands were sent (`conserves_play`). One event moves at most the
command in front from waiting to executed, or all that wait to lost; everything else that happens to the
queue is that it is sent to, whatever the steps and sinks of the command at hand do and however it ends.
-/

namespace BatchStringify.Session

/-! ## What becomes of commands -/

/-- The tasks that a run executed, each with whether it was cancelled, as it was decided when the task was
taken. -/
def executed (s : Session) (events : List Event) : List (Task × Bool) :=
  (s.turns events).filterMap fun t =>
    t.queue.waiting.head?.map fun task => (task, t.isCancelled task)

/-- The tasks that are lost in an event: those that wait when the receiving end of the queue is dropped, and
those that are sent afterwards. -/
def lostAt (s : Session) : Event → List Task
  | .dropQueue => s.queue.waiting
  | event =>
    if s.queue.isOpen then [] else (s.after event).queue.sent.drop s.queue.sent.length

/-- The tasks that are lost in a run. -/
def lost (s : Session) : List Event → List Task
  | [] => []
  | event :: rest => s.lostAt event ++ (s.after event).lost rest

/-- The session after an action whose panic, if it ends with one, is caught and noted. -/
def contain (cancelled : Bool) (action : Action Unit) (s : Session) : Session :=
  match action.run.run s with
  | (.ok (), s') => s'
  | (.error payload, s') => s'.note (.commandPanicked cancelled payload)

/-- The tasks that a run executes are followed by those of what comes after it. -/
theorem executed_append (s : Session) (first second : List Event) :
    s.executed (first ++ second) = s.executed first ++ (s.play first).executed second := by
  rw [executed, turns_append, List.filterMap_append]
  rfl

variable {s : Session} {task : Task} {rest : List Task}

/-- A turn executes the first task that waits, and cancels it if its scope has ended. -/
theorem executed_turn_of_cons (h : s.queue.waiting = task :: rest) :
    s.executed [.turn] = [(task, s.isCancelled task)] := by
  simp [executed, turns, h]

theorem executed_turn_of_nil (h : s.queue.waiting = []) : s.executed [.turn] = [] := by
  simp [executed, turns, h]

/-- A task is cancelled just if it is bound to a scope that has ended. -/
theorem isCancelled_iff : s.isCancelled task = true ↔
    ∃ scope, task.scope? = some scope ∧ s.suspensions.isValid scope = false := by
  unfold isCancelled
  cases task.scope? <;> simp

/-- A turn calls one of the two bodies of its task. -/
theorem after_turn_eq_contain (h : s.queue.waiting = task :: rest) : s.after .turn =
    contain (s.isCancelled task) (if s.isCancelled task then cancel task else run task)
      (s.taken rest) := by
  rw [after_turn_of_cons h]
  rfl

/-! ## Conservation -/

/-- How the queue comes from one state to another if some tasks are executed and some are lost in between. A
queue whose receiving end is gone has nothing waiting and executes nothing. -/
structure Conserves (s s' : Session) (done : List (Task × Bool)) (lost : List Task) : Prop where
  sent : ∃ more, s'.queue.sent = s.queue.sent ++ more ∧
    s'.queue.enqueued = s.queue.enqueued + more.length ∧
    s.queue.waiting ++ more = done.map (·.1) ++ s'.queue.waiting ++ lost
  starts : s'.starts = s.starts ++ done.filterMap fun p => p.1.start? p.2
  /-- Nothing is lost as long as the receiving end is there. -/
  kept : s'.queue.isOpen = true → s.queue.isOpen = true ∧ lost = []
  empty : s'.queue.isOpen = false → s'.queue.waiting = []
  idle : s.queue.isOpen = false → done = []

/-- Doing nothing conserves. -/
theorem Conserves.refl (closed : s.queue.isOpen = false → s.queue.waiting = []) :
    Conserves s s [] [] :=
  ⟨⟨[], by simp, by simp, by simp⟩, by simp, fun h => ⟨h, rfl⟩, closed, fun _ => rfl⟩

/-- A closed queue stays closed. -/
theorem Conserves.closed {s' : Session} {done : List (Task × Bool)} {lost : List Task}
    (h : Conserves s s' done lost) (hs : s.queue.isOpen = false) : s'.queue.isOpen = false := by
  rw [Bool.eq_false_iff] at hs ⊢
  exact fun hopen => hs (h.kept hopen).1

/-- What is conserved first and then is conserved in all. -/
theorem Conserves.trans {s' s'' : Session} {done done' : List (Task × Bool)}
    {lost lost' : List Task} (h : Conserves s s' done lost) (h' : Conserves s' s'' done' lost') :
    Conserves s s'' (done ++ done') (lost ++ lost') := by
  obtain ⟨more, hmore, hcount, hsplit⟩ := h.sent
  obtain ⟨more', hmore', hcount', hsplit'⟩ := h'.sent
  refine ⟨⟨more ++ more', ?_, ?_, ?_⟩, ?_, ?_, h'.empty, ?_⟩
  · rw [hmore', hmore, List.append_assoc]
  · rw [hcount', hcount, List.length_append]
    omega
  · rw [← List.append_assoc, hsplit, List.map_append]
    cases ho : s'.queue.isOpen with
    | true =>
      rw [(h.kept ho).2, List.append_nil, List.append_assoc, hsplit']
      simp
    | false =>
      -- nothing waits any more, so all that is sent from here on is lost
      have hlater := h'.closed ho
      have hrest : more' = lost' := by
        simpa [h.empty ho, h'.idle ho, h'.empty hlater] using hsplit'
      simp [h.empty ho, h'.idle ho, h'.empty hlater, hrest]
  · -- starts
    rw [h'.starts, h.starts, List.filterMap_append, List.append_assoc]
  · -- kept
    intro hopen
    obtain ⟨hopen', hlost'⟩ := h'.kept hopen
    obtain ⟨hopen'', hlost⟩ := h.kept hopen'
    exact ⟨hopen'', by rw [hlost, hlost']; rfl⟩
  · -- idle
    intro hclosed
    rw [h.idle hclosed, h'.idle (h.closed hclosed)]
    rfl

/-- What is sent while nothing else happens to the queue is lost if the receiving end is gone. -/
theorem conserves_of_enqueues {s' : Session} (h : Enqueues s s')
    (closed : s.queue.isOpen = false → s.queue.waiting = []) :
    Conserves s s' []
      (if s.queue.isOpen then [] else s'.queue.sent.drop s.queue.sent.length) := by
  obtain ⟨more, hmore⟩ := h.queue
  rw [CommandQueue.foldl_send] at hmore
  cases ho : s.queue.isOpen with
  | true =>
    refine ⟨⟨more, ?_, ?_, ?_⟩, ?_, ?_, ?_, fun _ => rfl⟩ <;> simp [hmore, ho, h.starts]
  | false =>
    refine ⟨⟨more, ?_, ?_, ?_⟩, ?_, ?_, ?_, fun _ => rfl⟩ <;>
      simp [hmore, ho, h.starts, closed ho]

/-- A command that begins is noted, with what becomes of it. -/
theorem starts_begun (s : Session) (task : Task) :
    (s.begun task).starts = s.starts ++ (task.start? (s.isCancelled task)).toList := by
  unfold begun
  cases task.start? (s.isCancelled task) with
  | none => simp
  | some start => simp [starts, emit, record, withLink, Link.record, Entry.started?]

/-- A turn executes the task in front and loses nothing. -/
theorem conserves_turn (closed : s.queue.isOpen = false → s.queue.waiting = []) :
    Conserves s (s.after .turn) (s.executed [.turn]) (s.lostAt .turn) := by
  cases hw : s.queue.waiting with
  | nil =>
    have hlost : s.lostAt .turn = [] := by
      simp [lostAt, after_turn_of_nil hw]
    rw [executed_turn_of_nil hw, after_turn_of_nil hw, hlost]
    exact .refl closed
  | cons task rest =>
    -- a task waits, so the receiving end is there
    have hopen : s.queue.isOpen = true := by
      rw [← Bool.not_eq_false]
      exact fun hs => by simp [closed hs] at hw
    have henqueues := enqueues_turn hw
    obtain ⟨more, hmore⟩ := henqueues.queue
    rw [CommandQueue.foldl_send, queue_begun] at hmore
    have hlost : s.lostAt .turn = [] := by simp [lostAt, hopen]
    rw [executed_turn_of_cons hw, hlost]
    refine ⟨⟨more, ?_, ?_, ?_⟩, ?_, ?_, ?_, ?_⟩
    · rw [hmore]
      rfl
    · rw [hmore]
      rfl
    · rw [hmore, hw]
      simp [taken, hopen]
    · rw [henqueues.starts, starts_begun]
      rfl
    · exact fun _ => ⟨hopen, rfl⟩
    · rw [hmore]
      simp [taken, hopen]
    · simp [hopen]

/-- Every event conserves: what was sent before and in it was executed, waits or was lost. -/
theorem conserves_after (event : Event) (closed : s.queue.isOpen = false → s.queue.waiting = []) :
    Conserves s (s.after event) (s.executed [event]) (s.lostAt event) := by
  cases event with
  | step step => exact conserves_of_enqueues (enqueues_perform s step) closed
  | turn => exact conserves_turn closed
  | dropSender =>
    obtain ⟨senders, hqueue⟩ : ∃ senders, s.dropOwnSender.queue =
        { s.queue with senders := senders } := by
      unfold dropOwnSender
      split
      · exact ⟨_, rfl⟩
      · exact ⟨_, rfl⟩
    have hstarts : s.dropOwnSender.starts = s.starts := by
      unfold dropOwnSender
      split <;> rfl
    refine ⟨⟨[], ?_, ?_, ?_⟩, ?_, ?_, ?_, fun _ => rfl⟩ <;>
      simp [after, hqueue, hstarts, lostAt, executed, turns]
    exact closed
  | dropQueue =>
    refine ⟨⟨[], ?_, ?_, ?_⟩, ?_, ?_, ?_, fun _ => rfl⟩ <;>
      simp [after, closeQueue, CommandQueue.close, lostAt, executed, turns, starts]

/-- Of all that was sent in a run, and of what waited at first, nothing is forgotten and nothing is executed
twice: first come the tasks that were executed, then those that wait, and then those that were lost. -/
theorem conserves_play (events : List Event)
    (closed : s.queue.isOpen = false → s.queue.waiting = []) :
    Conserves s (s.play events) (s.executed events) (s.lost events) := by
  induction events generalizing s with
  | nil => exact .refl closed
  | cons event rest ih =>
    have hfirst := conserves_after event closed
    have happend := s.executed_append [event] rest
    rw [show s.executed (event :: rest) = _ from happend]
    exact hfirst.trans (ih hfirst.empty)

/-- A queue stays open until it is dropped. -/
theorem isOpen_play_iff (events : List Event) : (s.play events).queue.isOpen = true ↔
    s.queue.isOpen = true ∧ ∀ event ∈ events, event ≠ .dropQueue := by
  induction events generalizing s with
  | nil => simp
  | cons event rest ih =>
    have hfirst : (s.after event).queue.isOpen = true ↔
        s.queue.isOpen = true ∧ event ≠ .dropQueue := by
      cases event with
      | step step =>
        rw [(enqueues_perform s step).extends.isOpen]
        simp
      | turn => simp [isOpen_turn]
      | dropSender =>
        simp only [after, dropOwnSender]
        split <;> simp [CommandQueue.dropSender]
      | dropQueue => simp [after, closeQueue, CommandQueue.close]
    rw [play_cons, ih, hfirst, List.forall_mem_cons, and_assoc]

/-! ## Running the queue -/

/-- Running the queue counts the tasks that it executes. -/
theorem length_executed_drain (fuel : Nat) (s : Session) :
    (s.executed (List.replicate (drain fuel s).1 .turn)).length = (drain fuel s).1 := by
  induction fuel generalizing s with
  | zero => rfl
  | succ fuel ih =>
    rw [drain]
    cases hd : s.dequeue with
    | none => rfl
    | some s' =>
      have hafter : s.after .turn = s' := by simp [after, hd]
      have hone : (s.executed [.turn]).length = 1 := by
        cases hw : s.queue.waiting with
        | nil => simp [dequeue, CommandQueue.receive?, hw] at hd
        | cons task rest => rw [executed_turn_of_cons hw, List.length_singleton]
      have happend := s.executed_append [.turn] (List.replicate (drain fuel s').1 .turn)
      rw [play_cons, play_nil, hafter] at happend
      show (s.executed ([.turn] ++ List.replicate (drain fuel s').1 .turn)).length = _
      rw [happend, List.length_append, hone, ih, Nat.add_comm]

variable (debuggee : Debuggee) (settings : DebuggerSettings) (connection : Connection)

/-- At every point of a run at which no task is executed, the tasks executed so far, those that wait and
those that were lost with the receiving end are together the tasks that were sent, in the order in which
they were sent, and the queue has counted them. While the receiving end is there nothing is lost; after that
nothing waits or is ever executed again. Each turn calls one body of its task, and which one is decided by
the validity of its scope when it is taken; the commands that say that they were started are those that were
executed, each once. A run of the queue ends with nothing waiting and counts what it executed. -/
theorem queue_conserved (past : List Event) :
    let s₀ := start debuggee settings connection
    let s := s₀.play past
    (s₀.executed past).map (·.1) ++ s.queue.waiting ++ s₀.lost past = s.queue.sent ∧
    s.queue.enqueued =
      (s₀.executed past).length + s.queue.waiting.length + (s₀.lost past).length ∧
    ((∀ event ∈ past, event ≠ .dropQueue) → s.queue.isOpen = true ∧ s₀.lost past = []) ∧
    (.dropQueue ∈ past → s.queue.isOpen = false ∧ s.queue.waiting = [] ∧
      ∀ future, s₀.executed (past ++ future) = s₀.executed past) ∧
    (∀ t ∈ s₀.turns past, ∀ task rest, t.queue.waiting = task :: rest →
      (t.isCancelled task = true ↔
        ∃ scope, task.scope? = some scope ∧ t.suspensions.isValid scope = false) ∧
      t.after .turn = contain (t.isCancelled task)
        (if t.isCancelled task then cancel task else run task) (t.taken rest)) ∧
    s.starts = (s₀.executed past).filterMap (fun p => p.1.start? p.2) ∧
    (s.queue.isOpen = true → ∃ count,
      performTop .run s = (.number count, s.play (List.replicate count .turn)) ∧
      (s.play (List.replicate count .turn)).queue.waiting = [] ∧
      (s.executed (List.replicate count .turn)).length = count) := by
  intro s₀ s
  -- what the run conserves gives all parts but the one about the body of each turn
  have hplay : Conserves s₀ s (s₀.executed past) (s₀.lost past) :=
    conserves_play past fun _ => rfl
  obtain ⟨more, hsent, hcount, hsplit⟩ := hplay.sent
  have hmore : more = (s₀.executed past).map (·.1) ++ s.queue.waiting ++ s₀.lost past := hsplit
  have hopen : s.queue.isOpen = true ↔ ∀ event ∈ past, event ≠ .dropQueue :=
    (isOpen_play_iff past).trans ⟨And.right, fun h => ⟨rfl, h⟩⟩
  refine ⟨?_, ?_, ?_, ?_, ?_, ?_, ?_⟩
  · rw [hsent, hmore]
    rfl
  · rw [hcount, hmore]
    simp [s₀, start]
    omega
  · intro hpast
    exact ⟨hopen.2 hpast, (hplay.kept (hopen.2 hpast)).2⟩
  · intro hdropped
    have hclosed : s.queue.isOpen = false := by
      rw [Bool.eq_false_iff]
      exact fun h => hopen.1 h _ hdropped rfl
    refine ⟨hclosed, hplay.empty hclosed, fun future => ?_⟩
    have hlater : Conserves s (s.play future) (s.executed future) (s.lost future) :=
      conserves_play future hplay.empty
    rw [executed_append, show (s₀.play past).executed future = [] from hlater.idle hclosed,
      List.append_nil]
  · exact fun t _ task rest hw => ⟨isCancelled_iff, after_turn_eq_contain hw⟩
  · exact hplay.starts
  · intro ho
    have hrun : s.runPending.2 = s.play (List.replicate s.runPending.1 .turn) :=
      drain_eq_play s.work s
    refine ⟨s.runPending.1, ?_, ?_, length_executed_drain s.work s⟩
    · rw [performTop, if_pos ho, ← hrun]
    · rw [← hrun]
      exact waiting_runPending s

/-- The first command ends the scope of the second and sends a child, and the third panics. -/
def threeCommands : List Event :=
  [.step (.suspend 0 (some 1)),
    .step (.invoke ⟨"first", [.invoke ⟨"child", [], [], none, .unbound⟩, .invalidate 0], [], none,
      .unbound⟩),
    .step (.invoke ⟨"second", [], [], some 0, .ordinary⟩),
    .step (.invoke ⟨"third", [.panic (.text "third")], [], none, .unbound⟩)]

/-- A run of the queue executes all three and the child. If the receiving end is dropped after three turns,
the child is lost, and so is whatever is sent later. -/
theorem queue_conserved_threeCommands :
    let s₀ := start {} {} .localProcess
    let dropped := threeCommands ++ [.turn, .turn, .turn, .dropQueue,
      .step (.invoke ⟨"late", [], [], none, .unbound⟩), .turn]
    (∃ s', performTop .run (s₀.play threeCommands) = (.number 4, s') ∧ s'.queue.waiting = []) ∧
    (s₀.play dropped).starts = [("first", false), ("second", true), ("third", false)] ∧
    (s₀.play dropped).queue.enqueued = 5 ∧ (s₀.lost dropped).length = 2 ∧
    ∀ future, s₀.executed (dropped ++ future) = s₀.executed dropped := by
  intro s₀ dropped
  obtain ⟨-, -, hkept, -, -, -, hrun⟩ := queue_conserved {} {} .localProcess threeCommands
  obtain ⟨-, -, -, hdropped, -, -, -⟩ := queue_conserved {} {} .localProcess dropped
  refine ⟨?_, by decide +kernel, by decide +kernel, by decide +kernel, ?_⟩
  · have hnever : ∀ event ∈ threeCommands, event ≠ .dropQueue := by
      simp [threeCommands]
    obtain ⟨count, hcount, hwaiting, -⟩ := hrun (hkept hnever).1
    have hfour : (s₀.play threeCommands).runPending.1 = 4 := by decide +kernel
    have hanswer := congrArg Prod.fst hcount
    rw [performTop, if_pos (hkept hnever).1] at hanswer
    obtain rfl : 4 = count := hfour.symm.trans (Result.number.inj hanswer)
    exact ⟨_, hcount, hwaiting⟩
  · exact (hdropped (by simp [dropped])).2.2

end BatchStringify.Session
